import PropertyFiles.Command.Basic
import PropertyFiles.Filter
import PropertyFiles.Listing.Json
import PropertyFiles.Listing.Plain
import PropertyFiles.Listing.Yaml.Mapping
import PropertyFiles.Store.Configurations
import PropertyFiles.Store.Files
/-!
# Running commands

A run takes a file tree to an exit status, what is printed, and the tree afterwards. Failures print
nothing but a message on the error output, and change nothing, unless the program stops while it writes.
How the patterns of listings are read is left open.
-/
namespace PropertyFiles

namespace Command

structure Result where
  status : Nat
  output : String
  errors : String
  tree : FileTree

/-- How a command ends before its notices are written: with output or with a message. -/
inductive Ending
  | success (output : String) (tree : FileTree)
  | failure (message : String)
  /-- The program stops without a message of its own, and leaves the files as they are by then. -/
  | abort (tree : FileTree)

abbrev Step := Ending × List Notice

def Step.after (step : Step) (notices : List Notice) : Step :=
  (step.1, notices ++ step.2)

def withStore (tree : FileTree) (project : Path) (kind : Kind) (action : Store → Step) : Step :=
  match Store.load tree project.text kind with
  | (some store, notices) => (action store).after notices
  | (none, notices) => (.failure s!"No readable {kind.fileName} in {project}", notices)

/-- The store of a command that may begin a new file; a file that cannot be read is not one. -/
def withStoreOrNew (tree : FileTree) (project : Path) (kind : Kind) (action : Store → Step) :
    Step :=
  match Store.load tree project.text kind with
  | (some store, notices) => (action store).after notices
  | (none, notices) =>
    let path := project.child kind.fileName
    if tree.contains path then (.failure s!"Cannot parse {path}", notices)
    else (action (Store.create project.text kind)).after notices

def saveAndPrint (tree : FileTree) (store : Store) (line : String) : Step :=
  match store.save tree with
  | (tree, .ok notices) => (.success (Listing.shownLine line) tree, notices)
  | (tree, .error .nulInPath) | (tree, .error (.unencodable _)) => (.abort tree, [])
  | (_, .error error) => (.failure s!"Could not save {store.path}: {error.message}", [])

def printed (format : Format) (properties : OrderedMap String String) : String :=
  match format with
  | .plain => Listing.plain properties
  | .json => Listing.Json.object properties ++ "\n"
  | .yaml => Listing.Yaml.mapping properties

/-- The end of a command that prints properties. Those that were loaded are texts; others are not printed. -/
def print (tree : FileTree) (format : Format) (properties : OrderedMap String RawText) : Ending :=
  match properties.texts? with
  | some texts => .success (printed format texts) tree
  | none => .abort tree

def mergeAll (tree : FileTree) (store : Store) (kinds : List Kind) : Store × List Notice :=
  kinds.foldl
    (fun (store, notices) kind =>
      let (merged, more) := store.merge tree kind
      (merged, notices ++ more))
    (store, [])

/-- What is printed for help begins with this line. -/
def usage : String := "Usage: projprops [OPTIONS] COMMAND [ARGS]...\n"

def execute (read : PatternReader) (tree : FileTree) (invocation : Invocation) : Step :=
  let project := Path.ofString invocation.project
  let kind := invocation.kind
  match invocation.command with
  | .list merges pattern leading format => withStore tree project kind fun store =>
    let (store, notices) := mergeAll tree store merges
    match Filter.ofPattern read pattern leading with
    | .ok filter => (print tree format (filter.select store.properties.defined), notices)
    | .error .invalid =>
      let shown := Text.quoted (pattern.getD "")
      (.failure s!"Invalid --include pattern {shown}: RegexError", notices)
    | .error .tooLarge => (.abort tree, notices)
  | .get key => withStore tree project kind fun store =>
    match store.get? key with
    | some value =>
      match value.text? with
      | some text => (.success (Listing.shownLine text) tree, [])
      | none => (.abort tree, [])
    | none => (.failure s!"{key} is not set", [])
  | .set key value => withStoreOrNew tree project kind fun store =>
    saveAndPrint tree (store.set key (some value)) "OK"
  | .remove key => withStore tree project kind fun store =>
    match store.get? key with
    | some _ => saveAndPrint tree (store.remove key) "OK"
    | none => (.failure s!"{key} is not set", [])
  | .create force =>
    let path := project.child kind.fileName
    if !tree.isFolder project then (.failure s!"{project} is not a directory", [])
    else if tree.contains path && !force then
      (.failure s!"{path} already exists, use --force to overwrite", [])
    else saveAndPrint tree (Store.create project.text kind) s!"Created {path}"
  | .configurations => withStore tree project kind fun store =>
    (print tree .json store.configurations, [])
  | .help => (.success usage tree, [])

/-- The notices that are shown: all of them, or the warnings only. -/
def shownNotices (verbose : Bool) (notices : List Notice) : String :=
  String.join ((notices.filter fun notice => verbose || notice.level == .warning).map Notice.line)

def usageStatus : Nat := 2

def runInvocation (read : PatternReader) (tree : FileTree) (invocation : Invocation) : Result :=
  let (ending, notices) := execute read tree invocation
  let errors := shownNotices invocation.verbose notices
  match ending with
  | .success output tree => ⟨0, output, errors, tree⟩
  | .failure message => ⟨1, "", errors ++ Listing.shownLine message, tree⟩
  | .abort tree => ⟨1, "", errors, tree⟩

def run (read : PatternReader) (tree : FileTree) (words : List RawText) : Result :=
  match parse words with
  | .ok invocation => runInvocation read tree invocation
  | .error error => ⟨usageStatus, "", error.message ++ "\n", tree⟩

end Command
end PropertyFiles
