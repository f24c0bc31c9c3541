import PropertyFiles.Proofs.Store.RoundTrip
/-!
# What a project has for a kind

Whether a file loads, and why it does not, is one of five states. Only a folder at the path, or no
project around it, keeps a file from being written; what was written is the new state of its kind,
and the other kinds stay as they are.
-/
namespace PropertyFiles

inductive FileState
  | noProject
  | absent
  | folder
  | unreadable
  | holds (properties : OrderedMap String String)
deriving DecidableEq

namespace FileState

def properties? : FileState → Option (OrderedMap String String)
  | .holds properties => some properties
  | _ => none

def properties (state : FileState) : OrderedMap String String :=
  state.properties?.getD .empty

end FileState

namespace FileTree

/-- The state of a project's file: what loads, or what else is there. -/
def fileState (tree : FileTree) (project : String) (kind : Kind) : FileState :=
  match (tree.loadProject project kind).1 with
  | some properties => .holds properties
  | none =>
    if !tree.isFolder (Path.ofString project) then .noProject
    else
      match tree.find? ((Path.ofString project).child kind.fileName) with
      | none => .absent
      | some .folder => .folder
      | some (.file _) => .unreadable

/-- No properties can be read: there is no file, or its bytes are no text, or a line is malformed. -/
def Unreadable (tree : FileTree) (project : String) (kind : Kind) : Prop :=
  let node := tree.find? ((Path.ofString project).child kind.fileName)
  node = none ∨ node = some .folder ∨ ∃ bytes, node = some (.file bytes) ∧
    (String.fromUTF8? bytes = none ∨ ∃ text, String.fromUTF8? bytes = some text ∧
      ∃ line ∈ Text.lines text.toList, ∃ message, Line.ofChars line = .malformed message)

variable {tree after : FileTree} {project : String} {kind : Kind}

theorem loadProject_of_unreadable (h : tree.Unreadable project kind) :
    (tree.loadProject project kind).1 = none := by
  rw [Option.eq_none_iff_forall_ne_some]
  intro properties hload
  obtain ⟨bytes, hbytes, hdecode⟩ := loadProject_eq_some_iff.1 hload
  obtain ⟨text, htext, hread⟩ := Document.decode_eq_ok_iff.1 hdecode
  simp only [Unreadable, hbytes, reduceCtorEq, Option.some.injEq, Node.file.injEq, false_or,
    exists_eq_left', htext] at h
  obtain ⟨line, hline, message, hmalformed⟩ := h
  exact Document.exists_read_iff.1 ⟨properties, hread⟩ line hline message hmalformed

theorem fileState_spec (tree : FileTree) (project : String) (kind : Kind) :
    match tree.fileState project kind with
    | .noProject => tree.isFolder (Path.ofString project) = false
    | .absent => tree.isFolder (Path.ofString project) ∧
        tree.find? ((Path.ofString project).child kind.fileName) = none
    | .folder => tree.find? ((Path.ofString project).child kind.fileName) = some .folder
    | .unreadable => (tree.loadProject project kind).1 = none ∧
        ∃ bytes, tree.find? ((Path.ofString project).child kind.fileName) = some (.file bytes)
    | .holds properties => (tree.loadProject project kind).1 = some properties := by
  unfold fileState
  cases hload : (tree.loadProject project kind).1 with
  | some properties => rfl
  | none =>
    cases hfolder : tree.isFolder (Path.ofString project) with
    | false => exact rfl
    | true =>
      cases hfind : tree.find? ((Path.ofString project).child kind.fileName) with
      | none => exact ⟨rfl, rfl⟩
      | some node =>
        cases node with
        | folder => exact rfl
        | file bytes => exact ⟨rfl, bytes, rfl⟩

theorem fileState_eq_holds_iff {properties : OrderedMap String String} :
    tree.fileState project kind = .holds properties ↔
      (tree.loadProject project kind).1 = some properties := by
  constructor
  · intro h
    simpa only [h] using fileState_spec tree project kind
  · intro hload
    simp only [fileState, hload]

theorem properties?_fileState :
    (tree.fileState project kind).properties? = (tree.loadProject project kind).1 := by
  refine Option.ext fun properties => ?_
  rw [← fileState_eq_holds_iff]
  cases tree.fileState project kind <;> simp [FileState.properties?]

end FileTree
end PropertyFiles
