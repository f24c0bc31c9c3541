import PropertyFiles.Command.Options
import PropertyFiles.Kind
/-!
# Commands

What can be asked on the command line: to list properties, to look one up, to set or remove one, to
begin a new file, to list the package configurations, and to explain itself. Each command works on the
file of one kind in a project folder.
-/
namespace PropertyFiles

inductive Format
  | plain
  | json
  | yaml
deriving DecidableEq, Repr

def Format.ofWord? : String → Option Format
  | "text" => some .plain
  | "json" => some .json
  | "yaml" => some .yaml
  | _ => none

inductive Command
  | list (merges : List Kind) (pattern leading : Option String) (format : Format)
  | get (key : String)
  | set (key : String) (value : RawText)
  | remove (key : String)
  /-- Write a file without properties; one that exists is overwritten only by force. -/
  | create (force : Bool)
  | configurations
  | help
deriving DecidableEq, Repr

structure Invocation where
  verbose : Bool
  kind : Kind
  project : String
  command : Command
deriving DecidableEq, Repr

namespace Command

def choice (words : Words) (option : String) (ofWord? : String → Option α) (otherwise : α) :
    Except UsageError α :=
  match (words.values option).getLast? with
  | none => .ok otherwise
  | some word =>
    match ofWord? word with
    | some value => .ok value
    | none => .error (.badChoice option word)

def choices (words : Words) (option : String) (ofWord? : String → Option α) :
    Except UsageError (List α) :=
  (words.values option).mapM fun word =>
    match ofWord? word with
    | some value => .ok value
    | none => .error (.badChoice option word)

/-- The last value of an option that is not empty. -/
def lastText? (words : Words) (option : String) : Option String :=
  (words.values option).getLast?.filter (· ≠ "")

inductive Verb
  | list
  | get
  | set
  | remove
  | create
  | configurations
deriving DecidableEq, Repr

namespace Verb

def ofWord? : String → Option Verb
  | "show" => some .list
  | "get" => some .get
  | "set" => some .set
  | "unset" => some .remove
  | "init" => some .create
  | "apk-configs" => some .configurations
  | _ => none

def ownOptions : Verb → List (String × Arity)
  | .list =>
    [("--merge", .value), ("--include", .value), ("--prefix", .value), ("--format", .value)]
  | .create => [("--force", .switch)]
  | _ => []

def options (verb : Verb) : List (String × Arity) :=
  [("--type", .value), ("--project", .value), ("--help", .switch)] ++ verb.ownOptions

def arity : Verb → Nat
  | .get | .remove => 1
  | .set => 2
  | _ => 0

def defaultKind : Verb → Kind
  | .create => .machine
  | _ => .default

end Verb

def ofWords (verb : Verb) (words : Words) : Except UsageError Command := do
  match verb, words.arguments with
  | .list, [] =>
    return .list (← choices words "--merge" Kind.ofWord?) (lastText? words "--include")
      (lastText? words "--prefix") (← choice words "--format" Format.ofWord? .plain)
  | .get, [key] => return .get key.shown
  | .set, [key, value] => return .set key.shown value
  | .remove, [key] => return .remove key.shown
  | .create, [] => return .create (words.values "--force" ≠ [])
  | .configurations, [] => return .configurations
  | verb, arguments =>
    match arguments.drop verb.arity with
    | [] => throw .missingArgument
    | extra :: _ => throw (.extraArgument extra.shown)

/-- Whether a word asks for every notice, perhaps more than once. -/
def asksForNotices (word : String) : Bool :=
  word == "--verbose" ||
    match word.toList with
    | '-' :: letter :: letters => (letter :: letters).all (· == 'v')
    | _ => false

/-- The words before the name of the command, which ask for every notice or for help, and those from
the name on. -/
structure Leading where
  verbose : Bool := false
  help : Bool := false
  rest : List RawText

def splitLeading : List RawText → Except UsageError Leading
  | [] => .ok { rest := [] }
  | word :: rest =>
    if word.shown = "--" then .ok { rest }
    else if asksForNotices word.shown then
      (splitLeading rest).map fun leading => { leading with verbose := true }
    else if word.shown = "--help" then
      (splitLeading rest).map fun leading => { leading with help := true }
    else if isOption word.shown then .error (.unknownOption word.shown)
    else .ok { rest := word :: rest }

def parse (words : List RawText) : Except UsageError Invocation := do
  let leading ← splitLeading words
  if leading.help then return ⟨leading.verbose, .default, ".", .help⟩
  match leading.rest with
  | [] => throw .noCommand
  | name :: rest =>
    match Verb.ofWord? name.shown with
    | none => throw (.unknownCommand name.shown)
    | some verb =>
      let words ← sortWords verb.options rest
      if words.values "--help" ≠ [] then return ⟨leading.verbose, verb.defaultKind, ".", .help⟩
      let kind ← choice words "--type" Kind.ofWord? verb.defaultKind
      let command ← ofWords verb words
      return ⟨leading.verbose, kind, (words.values "--project").getLast?.getD ".", command⟩

end Command
end PropertyFiles
