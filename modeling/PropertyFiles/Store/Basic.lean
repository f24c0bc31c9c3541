import PropertyFiles.Notice
import PropertyFiles.OrderedMap.Merge
/-!
# Property stores

The properties of one file of a project, held in memory: they can be looked up, changed, merged
with those of the project's other files and saved. Entries keep the order in which they came in,
which is the order they are saved in.
-/
namespace PropertyFiles

structure Store where
  /-- The project folder as it was spelled. -/
  folder : String
  kind : Kind
  properties : Properties

inductive StoreError
  | unwritable (key : String) (fault : Document.Fault)
  | configurationName (key : String)
  | targetKind (kind : Kind)
  | nulInPath
  | file (failure : FileFailure) (path : Path)
  /-- A line with a lone surrogate. -/
  | unencodable (line : RawText)
deriving DecidableEq, Repr

def Document.Fault.reason : Document.Fault → String
  | .invalidKey => "invalid property name"
  | .lineBreak => "line breaks cannot be saved"
  | .leadingBlank => "value cannot start with whitespace"

def keyedReason (key reason : String) : String :=
  if key = "" then reason else s!"{key}: {reason}"

def StoreError.message : StoreError → String
  | .unwritable key fault => keyedReason key fault.reason
  | .configurationName key => keyedReason key "invalid apk configuration name"
  | .targetKind kind =>
    s!"The build target is stored in {Kind.default.fileName}, not {kind.fileName}"
  | .nulInPath => "embedded null byte"
  | .file failure path => failure.message path
  | .unencodable line => line.encodingFault

namespace Store

def create (folder : String) (kind : Kind) : Store :=
  ⟨folder, kind, OrderedMap.empty⟩

def folderPath (store : Store) : Path :=
  Path.ofString store.folder

def path (store : Store) : Path :=
  store.folderPath.child store.kind.fileName

/-- The value of a property, if it is present and has one. -/
def get? (store : Store) (key : String) : Option RawText :=
  store.properties.value? key

def contains (store : Store) (key : String) : Bool :=
  store.properties.contains key

def set (store : Store) (key : String) (value : Option RawText) : Store :=
  { store with properties := store.properties.insert key value }

def remove (store : Store) (key : String) : Store :=
  { store with properties := store.properties.erase key }

def setTarget (store : Store) (hash : RawText) : Except StoreError Store :=
  if store.kind = .default then .ok (store.set WellKnown.target (some hash))
  else .error (.targetKind store.kind)

def describe (store : Store) : String :=
  s!"ProjectProperties({Text.quoted store.folder}, {store.kind.name}, " ++
    s!"size={store.properties.size})"

@[simp] theorem properties_set (store : Store) (key : String) (value : Option RawText) :
    (store.set key value).properties = store.properties.insert key value := rfl

@[simp] theorem properties_remove (store : Store) (key : String) :
    (store.remove key).properties = store.properties.erase key := rfl

end Store
end PropertyFiles
