import PropertyFiles.Path
/-!
# Spelling a path

The shortest spelling of a path is read as that path, so a folder may be handed on in writing.
-/
namespace PropertyFiles

namespace Path

/-- Each component leads somewhere and is one component. -/
def IsProper (path : Path) : Prop :=
  ∀ part ∈ path.parts, part.toList ≠ [] ∧ part.toList ≠ ['.'] ∧ '/' ∉ part.toList

private theorem slash_not_mem_of_mem_splitOn {cs part : List Char} (h : part ∈ cs.splitOn '/') :
    '/' ∉ part := by
  induction cs generalizing part with
  | nil =>
    obtain rfl : part = [] := by simpa using h
    exact List.not_mem_nil
  | cons c rest ih =>
    rw [List.splitOn_cons_eq_if_modifyHead] at h
    split at h
    · rcases List.mem_cons.1 h with rfl | h
      · exact List.not_mem_nil
      · exact ih h
    · rename_i hc
      obtain ⟨first, more, hsplit⟩ := List.exists_cons_of_ne_nil (List.splitOn_ne_nil '/' rest)
      rw [hsplit] at h ih
      rcases List.mem_cons.1 h with rfl | h
      · have hfirst := ih List.mem_cons_self
        intro hmem
        rcases List.mem_cons.1 hmem with rfl | hmem
        · exact hc (beq_self_eq_true _)
        · exact hfirst hmem
      · exact ih (List.mem_cons_of_mem _ h)

private theorem isProper_ofString (text : String) : (ofString text).IsProper := by
  intro part hpart
  obtain ⟨cs, hcs, rfl⟩ := List.mem_map.1 hpart
  obtain ⟨hsplit, hleads⟩ := List.mem_filter.1 hcs
  rw [decide_eq_true_iff] at hleads
  rw [String.toList_ofList]
  exact ⟨hleads.1, hleads.2, slash_not_mem_of_mem_splitOn hsplit⟩

private theorem partsOf_slash (cs : List Char) : partsOf ('/' :: cs) = partsOf cs := by
  rw [partsOf, List.splitOn_cons_eq_if_modifyHead, if_pos (beq_self_eq_true _),
    List.filter_cons_of_neg (by simp), partsOf]

section Proper
variable {path : Path} (h : path.IsProper)
include h

private theorem partsOf_intercalate :
    partsOf (['/'].intercalate (path.parts.map String.toList)) = path.parts := by
  by_cases hnil : path.parts = []
  · rw [hnil]
    rfl
  · have hslash : ∀ cs ∈ path.parts.map String.toList, '/' ∉ cs := by
      intro cs hcs
      obtain ⟨part, hpart, rfl⟩ := List.mem_map.1 hcs
      exact (h part hpart).2.2
    have hall : (path.parts.map String.toList).filter (fun part => part ≠ [] ∧ part ≠ ['.']) =
        path.parts.map String.toList := by
      apply List.filter_eq_self.2
      intro cs hcs
      obtain ⟨part, hpart, rfl⟩ := List.mem_map.1 hcs
      exact decide_eq_true ⟨(h part hpart).1, (h part hpart).2.1⟩
    rw [partsOf, List.splitOn_intercalate _ hslash (by simpa using hnil), hall, List.map_map]
    exact (List.map_congr_left fun part _ => String.ofList_toList).trans (List.map_id _)

private theorem takeWhile_intercalate :
    (['/'].intercalate (path.parts.map String.toList)).takeWhile (· == '/') = [] := by
  cases hparts : path.parts with
  | nil => rfl
  | cons part more =>
    obtain ⟨hne, _, hslash⟩ := h part (hparts ▸ List.mem_cons_self)
    obtain ⟨c, rest, hpart⟩ := List.exists_cons_of_ne_nil hne
    have hc : (c == '/') = false := by
      rw [beq_eq_false_iff_ne]
      rintro rfl
      exact hslash (hpart ▸ List.mem_cons_self)
    cases more with
    | nil => simp [hpart, hc]
    | cons next others => simp [hpart, hc]

private theorem ofString_text_of_isProper : ofString path.text = path := by
  obtain ⟨anchor, parts⟩ := path
  have hparts := partsOf_intercalate h
  have htake := takeWhile_intercalate h
  simp only at hparts htake
  rw [text]
  split
  · rename_i hhere
    obtain ⟨rfl, rfl⟩ := hhere
    rfl
  · cases anchor with
    | here => simp [ofString, slashes, anchorOf, hparts, htake]
    | root => simp [ofString, slashes, anchorOf, partsOf_slash, hparts, htake]
    | doubleRoot => simp [ofString, slashes, anchorOf, partsOf_slash, hparts, htake]

end Proper

/-- A path is read back from its spelling. -/
@[simp] theorem ofString_text_ofString (text : String) :
    ofString (ofString text).text = ofString text :=
  ofString_text_of_isProper (isProper_ofString text)

end Path
end PropertyFiles
