import PropertyFiles.Text.Raw
/-!
# Options of a command line

Options begin with a hyphen and may stand among the arguments. A switch takes no value; any other
option takes the text after its equals sign or else the next word, whatever that looks like. Two
hyphens alone end the options. A word that is no text is an argument as it is, and else counts as the
text that shows it.
-/
namespace PropertyFiles

inductive UsageError
  | noCommand
  | unknownCommand (name : String)
  | unknownOption (name : String)
  | missingValue (option : String)
  | unexpectedValue (option : String)
  | badChoice (option word : String)
  | missingArgument
  | extraArgument (word : String)
deriving DecidableEq, Repr

def UsageError.message : UsageError → String
  | .noCommand => "Missing command."
  | .unknownCommand name => s!"No such command {name}."
  | .unknownOption name => s!"No such option: {name}"
  | .missingValue option => s!"Option {option} requires an argument."
  | .unexpectedValue option => s!"Option {option} does not take a value."
  | .badChoice option word => s!"Invalid value for {option}: {word}"
  | .missingArgument => "Missing argument."
  | .extraArgument word => s!"Got unexpected extra argument ({word})"

namespace Command

inductive Arity
  | switch
  | value
deriving DecidableEq, Repr

/-- The words of a command line sorted out: options with their values, and arguments. -/
structure Words where
  options : List (String × String) := []
  arguments : List RawText := []

def Words.withOption (words : Words) (name value : String) : Words :=
  { words with options := (name, value) :: words.options }

def Words.withArgument (words : Words) (word : RawText) : Words :=
  { words with arguments := word :: words.arguments }

def Words.values (words : Words) (name : String) : List String :=
  (words.options.filter (·.1 == name)).map Prod.snd

/-- Whether a word is an option: a hyphen and something after it. -/
def isOption (word : String) : Bool :=
  match word.toList with
  | '-' :: _ :: _ => true
  | _ => false

/-- The name of an option, and the value behind its equals sign. -/
def splitOption (word : String) : String × Option String :=
  let name := String.ofList (word.toList.takeWhile (· ≠ '='))
  match word.toList.dropWhile (· ≠ '=') with
  | [] => (name, none)
  | _ :: value => (name, some (String.ofList value))

def sortWords (table : List (String × Arity)) : List RawText → Except UsageError Words
  | [] => .ok {}
  | word :: rest =>
    if word.shown = "--" then .ok { arguments := rest }
    else if !isOption word.shown then (sortWords table rest).map (·.withArgument word)
    else
      match splitOption word.shown with
      | (name, given) =>
        match table.lookup name, given, rest with
        | none, _, _ => .error (.unknownOption name)
        | some .switch, none, rest => (sortWords table rest).map (·.withOption name "")
        | some .switch, some _, _ => .error (.unexpectedValue name)
        | some .value, some value, rest => (sortWords table rest).map (·.withOption name value)
        | some .value, none, value :: rest =>
          (sortWords table rest).map (·.withOption name value.shown)
        | some .value, none, [] => .error (.missingValue name)

end Command
end PropertyFiles
