import PropertyFiles.Command.Run
import PropertyFiles.Proofs.Path.Spelling
import PropertyFiles.Proofs.Store.Merging
import PropertyFiles.Proofs.Store.Stopping
/-!
# Executing edits

The commands that set and remove a property and begin a new file make a change that the state of the
file allows or forbids. Execution succeeds exactly if the change is allowed, and then writes the
document of the changed properties.
-/
namespace PropertyFiles

inductive Edit
  | set (key value : String)
  | remove (key : String)
  | create (force : Bool)

namespace Edit

def command : Edit → Command
  | .set key value => .set key ↑value
  | .remove key => .remove key
  | .create force => .create force

/-- Whether a change can be made in a state. -/
def Allowed : Edit → FileState → Prop
  | .set key value, state =>
    isKey key ∧ Line.IsValue value ∧ (state.properties?.isSome ∨ state = .absent)
  | .remove key, state => state.properties?.isSome ∧ key ∈ state.properties.keys
  | .create force, state => state ≠ .noProject ∧ (state = .absent ∨ force ∧ state ≠ .folder)

instance (edit : Edit) (state : FileState) : Decidable (edit.Allowed state) :=
  match edit with
  | .set .. => inferInstanceAs (Decidable (_ ∧ _))
  | .remove .. => inferInstanceAs (Decidable (_ ∧ _))
  | .create .. => inferInstanceAs (Decidable (_ ∧ _))

def result : Edit → OrderedMap String String → OrderedMap String String
  | .set key value, properties => properties.insert key value
  | .remove key, properties => properties.erase key
  | .create _, _ => .empty

def step (edit : Edit) (kind : Kind) (states : Kind → FileState) (other : Kind) : FileState :=
  if other = kind ∧ edit.Allowed (states kind) then .holds (edit.result (states kind).properties)
  else states other

variable {edit : Edit} {state : FileState}

end Edit

namespace Command

def Ending.tree? : Ending → Option FileTree
  | .success _ tree => some tree
  | _ => none

/-- The files that an ending leaves. -/
def Ending.left (tree : FileTree) : Ending → FileTree
  | .success _ after | .abort after => after
  | .failure _ => tree

section Invocations
variable {read : PatternReader} {tree after : FileTree} {invocation : Invocation}

theorem runInvocation_of_success {output : String}
    (h : (execute read tree invocation).1 = .success output after) :
    (runInvocation read tree invocation).status = 0 ∧
      (runInvocation read tree invocation).output = output ∧
      (runInvocation read tree invocation).tree = after := by
  rw [runInvocation, Prod.fst_eq_iff.1 h]
  exact ⟨rfl, rfl, rfl⟩

theorem runInvocation_of_not_success (h : (execute read tree invocation).1.tree? = none) :
    (runInvocation read tree invocation).status = 1 ∧
      (runInvocation read tree invocation).output = "" ∧
      (runInvocation read tree invocation).tree = (execute read tree invocation).1.left tree := by
  unfold runInvocation
  rcases hexecute : execute read tree invocation with ⟨ending, notices⟩
  rw [hexecute] at h
  cases ending with
  | success output after => cases h
  | failure message => exact ⟨rfl, rfl, rfl⟩
  | abort after => exact ⟨rfl, rfl, rfl⟩

end Invocations

def working (project : String) (kind : Kind) (properties : OrderedMap String String) : Store :=
  ⟨(Path.ofString project).text, kind, properties.raw.mapValues some⟩

theorem fst_mergeAll (tree : FileTree) (store : Store) (kinds : List Kind) :
    (mergeAll tree store kinds).1 = store.mergeAll tree kinds :=
  (List.foldl_hom Prod.fst fun _ _ => rfl).symm

section Execution
variable {read : PatternReader} {tree after : FileTree} {project : String} {kind : Kind}

theorem load_text (tree : FileTree) (project : String) (kind : Kind) :
    (Store.load tree (Path.ofString project).text kind).1 =
      (tree.fileState project kind).properties?.map (working project kind) := by
  have hproject : tree.loadProject (Path.ofString project).text kind =
      tree.loadProject project kind := by
    simp only [FileTree.loadProject, Path.ofString_text_ofString]
  rw [FileTree.properties?_fileState, Store.load, hproject]
  rcases tree.loadProject project kind with ⟨_ | properties, notices⟩ <;> rfl

private theorem exists_load_eq {folder : String} {found : Option Store}
    (h : (Store.load tree folder kind).1 = found) :
    ∃ notices, Store.load tree folder kind = (found, notices) :=
  ⟨_, Prod.fst_eq_iff.1 h⟩

theorem withStore_of_load {action : Store → Step} {store : Store}
    (h : (Store.load tree (Path.ofString project).text kind).1 = some store) :
    (withStore tree (Path.ofString project) kind action).1 = (action store).1 := by
  obtain ⟨notices, hload⟩ := exists_load_eq h
  rw [withStore, hload]
  rfl

theorem withStore_of_load_none {action : Store → Step}
    (h : (Store.load tree (Path.ofString project).text kind).1 = none) :
    (withStore tree (Path.ofString project) kind action).1.tree? = none := by
  obtain ⟨notices, hload⟩ := exists_load_eq h
  rw [withStore, hload]
  rfl

/-- The document of some properties may be written to the file of a kind, with a given result. -/
structure Writes (tree : FileTree) (project : String) (kind : Kind)
    (properties : OrderedMap String String) (after : FileTree) : Prop where
  fault : Document.fault? (properties.raw.mapValues some) = none
  nul : ((Path.ofString project).child kind.fileName).hasNul = false
  written : tree.writeFile ((Path.ofString project).child kind.fileName)
    (Document.render kind (properties.raw.mapValues some)).toUTF8 = .ok after

end Execution

section Keeping
variable {read : PatternReader} {tree : FileTree} {project : Path} {kind : Kind} {action : Store → Step}

end Keeping

end Command
end PropertyFiles
