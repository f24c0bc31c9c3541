import PropertyFiles.FileTree
/-!
# Replacing a file

Writing a file changes what stands at one location. A walk asks only which locations are folders,
and a file never takes the place of a folder, so every path leads where it led before.
-/
namespace PropertyFiles

namespace FileTree

private theorem walk_append (tree : FileTree) (here : Location) (names more : List String) :
    tree.walk here (names ++ more) =
      (tree.walk here names).bind fun there => tree.walk there more := by
  induction names generalizing here with
  | nil => rfl
  | cons name rest ih =>
    rw [List.cons_append, walk, walk]
    cases tree.node? here with
    | none => rfl
    | some node =>
      cases node with
      | file bytes => rfl
      | folder => exact ih (descend here name)

private theorem walk_of_folders {tree other : FileTree}
    (h : ∀ place, tree.node? place = some .folder → other.node? place = some .folder)
    {here there : Location} {names : List String} (hwalk : tree.walk here names = .ok there) :
    other.walk here names = .ok there := by
  induction names generalizing here with
  | nil => exact hwalk
  | cons name rest ih =>
    rw [walk] at hwalk ⊢
    cases hnode : tree.node? here with
    | none => simp [hnode] at hwalk
    | some node =>
      cases node with
      | file bytes => simp [hnode] at hwalk
      | folder =>
        rw [hnode] at hwalk
        rw [h here hnode]
        exact ih hwalk

theorem locate_child_eq_ok_iff {tree : FileTree} {folder : Path} {name : String}
    (hname : name ≠ "..") {place : Location} :
    tree.locate (folder.child name) = .ok place ↔
      ∃ above, tree.locate folder = .ok above ∧ tree.node? above = some .folder ∧
        place = name :: above := by
  have hstart : tree.startOf (folder.child name) = tree.startOf folder := rfl
  rw [locate, hstart, Path.parts_child, walk_append, locate]
  cases tree.walk (tree.startOf folder) folder.parts with
  | error failure => simp [Except.bind]
  | ok above =>
    simp only [Except.bind, walk, descend, if_neg hname, Except.ok.injEq, exists_eq_left']
    cases tree.node? above with
    | none => simp
    | some node => cases node <;> simp [eq_comm]

theorem find?_eq_some_iff {tree : FileTree} {path : Path} {node : Node} :
    tree.find? path = some node ↔
      path.hasNul = false ∧ ∃ place, tree.locate path = .ok place ∧ tree.node? place = some node := by
  unfold find?
  cases path.hasNul with
  | true => simp
  | false => cases tree.locate path <;> simp

theorem isFolder_iff {tree : FileTree} {path : Path} :
    tree.isFolder path ↔ tree.find? path = some .folder := by
  unfold isFolder
  split <;> simp_all

theorem isFile_iff {tree : FileTree} {path : Path} :
    tree.isFile path ↔ ∃ bytes, tree.find? path = some (.file bytes) := by
  unfold isFile
  split <;> simp_all

/-- A file can be written wherever a path leads, unless a folder stands there. -/
theorem exists_writeFile_iff {tree : FileTree} {path : Path} {bytes : ByteArray} :
    (∃ after, tree.writeFile path bytes = .ok after) ↔
      ∃ place, tree.locate path = .ok place ∧ tree.node? place ≠ some .folder := by
  constructor
  · rintro ⟨after, h⟩
    obtain ⟨place, hplace, hnode, _⟩ := writeFile_eq_ok h
    exact ⟨place, hplace, hnode⟩
  · rintro ⟨place, hplace, hnode⟩
    refine ⟨tree.set place (.file bytes), ?_⟩
    unfold writeFile
    simp only [hplace]

section Written
variable {tree after : FileTree} {path : Path} {bytes : ByteArray}

/-- Writing changes what stands at one location. -/
theorem node?_of_writeFile (h : tree.writeFile path bytes = .ok after) :
    ∃ place, tree.locate path = .ok place ∧ tree.node? place ≠ some .folder ∧
      ∀ other, after.node? other = if other = place then some (.file bytes) else tree.node? other := by
  obtain ⟨place, hplace, hnode, rfl⟩ := writeFile_eq_ok h
  have hroot : place ≠ [] := by
    rintro rfl
    exact hnode (node?_root tree)
  exact ⟨place, hplace, hnode, node?_set tree (.file bytes) hroot⟩

private theorem node?_eq_folder_of_writeFile (h : tree.writeFile path bytes = .ok after)
    (place : Location) : after.node? place = some .folder ↔ tree.node? place = some .folder := by
  obtain ⟨written, _, hnode, hafter⟩ := node?_of_writeFile h
  rw [hafter]
  by_cases hp : place = written
  · subst hp
    simp [hnode]
  · rw [if_neg hp]

private theorem locate_of_writeFile (h : tree.writeFile path bytes = .ok after) {other : Path}
    {place : Location} : after.locate other = .ok place ↔ tree.locate other = .ok place := by
  have hstart : after.startOf other = tree.startOf other := by
    obtain ⟨_, _, _, rfl⟩ := writeFile_eq_ok h
    rfl
  rw [locate, locate, hstart]
  exact ⟨walk_of_folders fun place => (node?_eq_folder_of_writeFile h place).1,
    walk_of_folders fun place => (node?_eq_folder_of_writeFile h place).2⟩

theorem find?_of_writeFile_self (h : tree.writeFile path bytes = .ok after)
    (hnul : path.hasNul = false) : after.find? path = some (.file bytes) := by
  obtain ⟨place, hplace, _, hafter⟩ := node?_of_writeFile h
  rw [find?_eq_some_iff]
  exact ⟨hnul, place, (locate_of_writeFile h).2 hplace, by rw [hafter, if_pos rfl]⟩

theorem find?_of_writeFile_of_ne (h : tree.writeFile path bytes = .ok after) {other : Path}
    (hne : tree.locate other ≠ tree.locate path) : after.find? other = tree.find? other := by
  obtain ⟨written, hwritten, _, hafter⟩ := node?_of_writeFile h
  refine Option.ext fun node => ?_
  rw [find?_eq_some_iff, find?_eq_some_iff]
  refine and_congr_right fun _ => exists_congr fun place => ?_
  rw [locate_of_writeFile h]
  refine and_congr_right fun hplace => ?_
  have hp : place ≠ written := by
    rintro rfl
    exact hne (hplace.trans hwritten.symm)
  rw [hafter, if_neg hp]

theorem writeFile_writeFile (h : tree.writeFile path bytes = .ok after) (more : ByteArray) :
    after.writeFile path more = tree.writeFile path more := by
  obtain ⟨place, hplace, hnode, rfl⟩ := writeFile_eq_ok h
  have hroot : place ≠ [] := by
    rintro rfl
    exact hnode (node?_root tree)
  have hthere : (tree.set place (.file bytes)).node? place = some (.file bytes) := by
    rw [node?_set tree _ hroot, if_pos rfl]
  unfold writeFile
  rw [(locate_of_writeFile h).2 hplace, hplace]
  simp only [hthere]
  rw [set, set, set, OrderedMap.insert_insert]

/-- Writing the same bytes again changes nothing. -/
theorem writeFile_of_writeFile (h : tree.writeFile path bytes = .ok after) :
    after.writeFile path bytes = .ok after := by
  rw [writeFile_writeFile h, h]

end Written

end FileTree
end PropertyFiles
