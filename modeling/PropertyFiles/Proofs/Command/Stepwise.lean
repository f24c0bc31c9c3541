import PropertyFiles.Proofs.Command.Execution
import PropertyFiles.Proofs.Session.Stepwise
/-!
# Commands step by step

Commands as programs that change files and print as they go, and that keep what they have changed and
printed when they stop. Each comes to the same status, output and files as the command that is run as a
whole; what is written to the error output is left out here.
-/
namespace PropertyFiles

/-- What a program changes. -/
structure World where
  tree : FileTree
  /-- All that was printed so far. -/
  output : String

/-- Programs that may stop with a status. What they did before stays done. -/
abbrev Script := ExceptT Nat (StateM World)

namespace Script

def endIn (script : Script α) (world : World) : Except Nat α × World :=
  script.run.run world

/-- The status of a program, and what it leaves. -/
def finish (script : Script Unit) (world : World) : Nat × World :=
  match script.endIn world with
  | (.ok (), after) => (0, after)
  | (.error status, after) => (status, after)

def echo (text : String) : Script Unit :=
  modify fun world => { world with output := world.output ++ text }

/-- The steps of an operation on a store. Their errors end the program. -/
def ofSteps (steps : Steps) (store : Store) : Script Store := do
  let world ← get
  let (memory, ending) := steps ⟨world.tree, store⟩
  set { world with tree := memory.tree }
  match ending with
  | .ok () => return memory.store
  | .error _ => throw 1

def load? (project : Path) (kind : Kind) : Script (Option Store) := do
  let world ← get
  return (world.tree.collectProject project.text kind).map fun found =>
    ⟨project.text, kind, found.raw.mapValues some⟩

def load (project : Path) (kind : Kind) : Script Store := do
  match ← load? project kind with
  | some store => return store
  | none => throw 1

def loadOrCreate (project : Path) (kind : Kind) : Script Store := do
  match ← load? project kind with
  | some store => return store
  | none =>
    let world ← get
    if world.tree.contains (project.child kind.fileName) then throw 1
    else return Store.create project.text kind

def saveAndEcho (store : Store) (line : String) : Script Unit := do
  let _ ← ofSteps Steps.save store
  echo (Listing.shownLine line)

def printTexts (format : Format) (properties : OrderedMap String String) : Script Unit :=
  match format with
  | .plain => properties.entries.forM fun e => echo (Listing.shownLine (e.1 ++ "=" ++ e.2))
  | .json => echo (Listing.Json.object properties ++ "\n")
  | .yaml => echo (Listing.Yaml.mapping properties)

def print (format : Format) (properties : OrderedMap String RawText) : Script Unit :=
  match properties.texts? with
  | some texts => printTexts format texts
  | none => throw 1

def ofCommand (read : PatternReader) (project : Path) (kind : Kind) : Command → Script Unit
  | .list merges pattern leading format => do
    let store ← load project kind
    let store ← merges.foldlM (fun store kind => ofSteps (Steps.merge kind) store) store
    match Filter.ofPattern read pattern leading with
    | .ok filter => print format (filter.select store.properties.defined)
    | .error _ => throw 1
  | .get key => do
    let store ← load project kind
    match store.get? key with
    | some value =>
      match value.text? with
      | some text => echo (Listing.shownLine text)
      | none => throw 1
    | none => throw 1
  | .set key value => do
    let store ← loadOrCreate project kind
    saveAndEcho (store.set key (some value)) "OK"
  | .remove key => do
    let store ← load project kind
    match store.get? key with
    | some _ => saveAndEcho (store.remove key) "OK"
    | none => throw 1
  | .create force => do
    let world ← get
    let path := project.child kind.fileName
    if !world.tree.isFolder project then throw 1
    else if world.tree.contains path && !force then throw 1
    else saveAndEcho (Store.create project.text kind) s!"Created {path}"
  | .configurations => do
    let store ← load project kind
    print .json store.configurations
  | .help => echo Command.usage

def ofWords (read : PatternReader) (words : List RawText) : Script Unit :=
  match Command.parse words with
  | .ok invocation =>
    ofCommand read (Path.ofString invocation.project) invocation.kind invocation.command
  | .error _ => throw Command.usageStatus

end Script

/-- What a command leaves that was run as a whole. -/
def Command.Ending.finish (tree : FileTree) : Ending → Nat × World
  | .success output after => (0, ⟨after, output⟩)
  | .failure _ => (1, ⟨tree, ""⟩)
  | .abort after => (1, ⟨after, ""⟩)

namespace Script

section Combinators
variable {tree : FileTree} {project : Path} {kind : Kind} {script : Store → Script Unit}
  {action : Store → Command.Step}
  (h : ∀ store, (script store).finish ⟨tree, ""⟩ = (action store).1.finish tree)
include h

end Combinators

end Script
end PropertyFiles
