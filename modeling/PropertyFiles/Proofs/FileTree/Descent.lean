import PropertyFiles.Proofs.FileTree.Replacement
/-!
# Paths that only lead down

A path that starts at the current folder and never leads back up spells out the location it leads to.
Two such paths lead to one location only if they are the same.
-/
namespace PropertyFiles

namespace Path

def IsDownward (path : Path) : Prop :=
  path.anchor = .here ∧ ".." ∉ path.parts

instance (path : Path) : Decidable path.IsDownward :=
  inferInstanceAs (Decidable (_ ∧ _))

theorem IsDownward.child {folder : Path} (h : folder.IsDownward) {name : String}
    (hname : name ≠ "..") : (folder.child name).IsDownward := by
  refine ⟨h.1, ?_⟩
  rw [parts_child, List.mem_append, List.mem_singleton]
  exact fun hmem => hmem.elim h.2 fun hlast => hname hlast.symm

end Path

namespace FileTree

private theorem walk_of_no_parent {tree : FileTree} {here there : Location} {names : List String}
    (h : ".." ∉ names) (hwalk : tree.walk here names = .ok there) :
    there = names.reverse ++ here := by
  induction names generalizing here with
  | nil => exact (Except.ok.inj hwalk).symm
  | cons name rest ih =>
    rw [List.mem_cons, not_or] at h
    rw [walk] at hwalk
    split at hwalk
    · cases hwalk
    · cases hwalk
    · rw [descend, if_neg (Ne.symm h.1)] at hwalk
      rw [ih h.2 hwalk, List.reverse_cons, List.append_assoc, List.singleton_append]

private theorem locate_of_downward {tree : FileTree} {path : Path} (h : path.IsDownward)
    {place : Location} (hplace : tree.locate path = .ok place) :
    place = path.parts.reverse ++ tree.current := by
  rw [locate, startOf, h.1] at hplace
  exact walk_of_no_parent h.2 hplace

theorem eq_of_locate_eq {tree : FileTree} {path other : Path} (h : path.IsDownward)
    (hother : other.IsDownward) {place : Location} (hplace : tree.locate path = .ok place)
    (hsame : tree.locate other = .ok place) : path = other := by
  have hlocation := (locate_of_downward h hplace).symm.trans (locate_of_downward hother hsame)
  have hparts := List.reverse_inj.1 (List.append_cancel_right hlocation)
  obtain ⟨anchor, parts⟩ := path
  obtain ⟨anchor', parts'⟩ := other
  rw [Path.mk.injEq]
  exact ⟨h.1.trans hother.1.symm, hparts⟩

end FileTree
end PropertyFiles
