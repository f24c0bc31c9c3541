import PropertyFiles.Proofs.Store.RoundTrip
/-!
# Operations step by step

Operations as steps that change memory in place: an error stops them, and what was changed before it
stays changed. All checks of an operation come before its first change, but for one: a value that cannot be
encoded is found out when its line is written. So each operation has the effect that it is given at once,
and a save that is stopped has written the lines in front.
-/
namespace PropertyFiles

structure Memory where
  tree : FileTree
  store : Store

/-- Steps on the memory, which keeps their changes also if they end in an error. -/
abbrev Steps :=
  Memory → Memory × Except StoreError Unit

namespace Steps

def change (f : Memory → Memory) : Steps :=
  fun memory => (f memory, .ok ())

/-- A step that only looks for an error. -/
def check (error? : Memory → Option StoreError) : Steps := fun memory =>
  match error? memory with
  | some error => (memory, .error error)
  | none => (memory, .ok ())

def andThen (first second : Steps) : Steps := fun memory =>
  match first memory with
  | (memory, .ok ()) => second memory
  | (memory, .error error) => (memory, .error error)

def each (step : α → Steps) : List α → Steps
  | [] => change id
  | a :: rest => (step a).andThen (each step rest)

def given (steps : Memory → Steps) : Steps :=
  fun memory => steps memory memory

def onStore (f : Store → Store) (memory : Memory) : Memory :=
  { memory with store := f memory.store }

def setTarget (hash : RawText) : Steps :=
  (check fun memory =>
    if memory.store.kind = .default then none else some (.targetKind memory.store.kind)).andThen
  (change (onStore (·.set WellKnown.target (some hash))))

def nameError? (name : String) : Option StoreError :=
  if isKey name then none else some (.configurationName (WellKnown.configurationKey name))

/-- All names are checked, the properties of the old names are removed, then those of the new names
are set. -/
def setConfigurations (configurations : Properties) : Steps :=
  (each (fun name => check fun _ => nameError? name) configurations.keys).andThen <|
  (given fun memory =>
    each (fun name => change (onStore (·.remove (WellKnown.configurationKey name))))
      memory.store.configurationNames).andThen <|
  if configurations.entries = [] then change (onStore (·.remove WellKnown.configurations))
  else
    (change (onStore (·.set WellKnown.configurations
      (some (",".intercalate configurations.keys))))).andThen
    (each (fun e => change (onStore (·.set (WellKnown.configurationKey e.1) e.2)))
      configurations.entries)

/-- The file of the store emptied, or made if it is missing. -/
def openFile : Steps := fun memory =>
  if memory.store.path.hasNul then (memory, .error .nulInPath)
  else
    match memory.tree.writeFile memory.store.path "".toUTF8 with
    | .error failure => (memory, .error (.file failure memory.store.path))
    | .ok tree => ({ memory with tree }, .ok ())

def write (text : String) : Steps := fun memory =>
  match memory.tree.readFile memory.store.path with
  | .error failure => (memory, .error (.file failure memory.store.path))
  | .ok bytes =>
    match memory.tree.writeFile memory.store.path (bytes ++ text.toUTF8) with
    | .error failure => (memory, .error (.file failure memory.store.path))
    | .ok tree => ({ memory with tree }, .ok ())

/-- A line is encoded before any of it is written. -/
def writeEntry (e : String × Option RawText) : Steps :=
  (match WellKnown.comment? e.1 with
    | some comment => write comment
    | none => change id).andThen <|
  match Document.written? e.2 with
  | some text => write (Document.entryLine e.1 text)
  | none => check fun _ => (Document.unencodableLine? e.1 e.2).map .unencodable

def checkEntries : Steps :=
  given fun memory => each
    (fun e => check fun _ => (Document.entryFault? e.1 e.2).map (.unwritable e.1))
    memory.store.properties.entries

def overwrite : Steps :=
  openFile.andThen <|
  (given fun memory => write memory.store.kind.header).andThen <|
  given fun memory => each writeEntry memory.store.properties.entries

/-- All entries are checked before the file is opened. -/
def save : Steps :=
  checkEntries.andThen overwrite

/-- How writing ends, by the first line that cannot be encoded. -/
def ending (line? : Option RawText) : Except StoreError Unit :=
  match line? with
  | some line => .error (.unencodable line)
  | none => .ok ()

end Steps

/-- Lines read one by one into a map, which keeps what was found before a malformed line. -/
def Document.collect (number : Nat) (found : OrderedMap String String) :
    List (List Char) → OrderedMap String String × Option Malformed
  | [] => (found, none)
  | line :: more =>
    match Line.ofChars line with
    | .ignored => collect (number + 1) found more
    | .malformed _ => (found, some ⟨number, String.ofList line⟩)
    | .property key value => collect (number + 1) (found.insert key value) more

/-- The lines of a file read one by one; what was found counts only if no line was malformed. -/
def FileTree.collectProject (tree : FileTree) (folder : String) (kind : Kind) :
    Option (OrderedMap String String) :=
  let folderPath := Path.ofString folder
  let path := folderPath.child kind.fileName
  if !tree.isFolder folderPath then none
  else if !tree.isFile path then none
  else
    match tree.readFile path with
    | .error _ => none
    | .ok bytes =>
      match String.fromUTF8? bytes with
      | none => none
      | some text =>
        match Document.collect 1 .empty (Text.lines text.toList) with
        | (found, none) => some found
        | (_, some _) => none

namespace Steps

def takeMissing (e : String × String) (store : Store) : Store :=
  if (store.get? e.1).isNone then store.set e.1 (some ↑e.2) else store

def merge (kind : Kind) : Steps :=
  given fun memory =>
    match memory.tree.collectProject memory.store.folder kind with
    | none => change id
    | some incoming => each (fun e => change (onStore (takeMissing e))) incoming.entries

end Steps
end PropertyFiles
