import PropertyFiles.Proofs.Line.Grammar
/-!
# What the lines of a document define

Well-formed lines define entries one after another, and reading them succeeds exactly if all of them are
well formed. Otherwise it stops at the first line that is not. Of the entries each key keeps the place of
its first definition and the value of its last.
-/
namespace PropertyFiles

open Text

namespace Document

/-- Well-formed lines and the entries that they define. -/
inductive Lists : List (List Char) → List (String × String) → Prop
  | nil : Lists [] []
  | skip {line : List Char} {lines : List (List Char)} {entries : List (String × String)} :
    Line.IsBlank line ∨ Line.IsComment line → Lists lines entries → Lists (line :: lines) entries
  | define {line : List Char} {lines : List (List Char)} {entries : List (String × String)}
    {key value : String} :
    Line.Defines line key value → Lists lines entries →
      Lists (line :: lines) ((key, value) :: entries)

theorem Lists.isWellFormed {lines : List (List Char)} {entries : List (String × String)}
    (h : Lists lines entries) : ∀ line ∈ lines, Line.IsWellFormed line := by
  induction h with
  | nil => simp
  | skip hignored _ ih =>
    exact List.forall_mem_cons.2 ⟨hignored.elim Or.inl (Or.inr ∘ Or.inl), ih⟩
  | define hdefines _ ih =>
    exact List.forall_mem_cons.2 ⟨Or.inr (Or.inr ⟨_, _, hdefines⟩), ih⟩

section Definitions
variable {line : List Char} {lines : List (List Char)} {number : Nat}

theorem definitions_eq_ok_iff_lists (h : ∀ line ∈ lines, ∀ c ∈ line, isBreak c = false)
    {entries : List (String × String)} :
    definitions number lines = .ok entries ↔ Lists lines entries := by
  induction lines generalizing number entries with
  | nil =>
    constructor
    · intro hnil
      obtain rfl := Except.ok.inj hnil
      exact Lists.nil
    · rintro ⟨⟩
      rfl
  | cons line rest ih =>
    obtain ⟨hline, hrest⟩ := List.forall_mem_cons.1 h
    have ih {number : Nat} {entries : List (String × String)} := @ih number hrest entries
    rw [definitions]
    cases hread : Line.ofChars line with
    | ignored =>
      simp only [ih]
      constructor
      · exact Lists.skip ((Line.ofChars_eq_ignored_iff hline).1 hread)
      · intro hlists
        cases hlists with
        | skip _ hmore => exact hmore
        | define hdefines _ =>
          rw [(Line.ofChars_eq_property_iff hline).2 hdefines] at hread
          cases hread
    | malformed text =>
      simp only [reduceCtorEq, false_iff]
      intro hlists
      have hwell := hlists.isWellFormed line List.mem_cons_self
      exact (Line.exists_malformed_iff hline).1 ⟨text, hread⟩ hwell
    | property key value =>
      constructor
      · intro hdefinitions
        cases hmore : definitions (number + 1) rest with
        | ok found =>
          rw [hmore] at hdefinitions
          obtain rfl := Except.ok.inj hdefinitions
          exact Lists.define ((Line.ofChars_eq_property_iff hline).1 hread) (ih.1 hmore)
        | error malformed =>
          rw [hmore] at hdefinitions
          cases hdefinitions
      · intro hlists
        cases hlists with
        | skip hignored _ =>
          rw [(Line.ofChars_eq_ignored_iff hline).2 hignored] at hread
          cases hread
        | define hdefines hmore =>
          rw [(Line.ofChars_eq_property_iff hline).2 hdefines] at hread
          cases hread
          rw [ih.2 hmore]

private theorem definitions_cons_of_not (h : ∀ c ∈ line, isBreak c = false)
    (hline : ¬ Line.IsWellFormed line) :
    definitions number (line :: lines) = .error ⟨number, String.ofList line⟩ := by
  obtain ⟨text, hread⟩ := (Line.exists_malformed_iff h).2 hline
  rw [definitions, hread]

private theorem definitions_cons_eq_error_iff (h : ∀ c ∈ line, isBreak c = false)
    (hline : Line.IsWellFormed line) {malformed : Malformed} :
    definitions number (line :: lines) = .error malformed ↔
      definitions (number + 1) lines = .error malformed := by
  rw [definitions]
  cases hread : Line.ofChars line with
  | ignored => exact Iff.rfl
  | malformed text => exact absurd hline ((Line.exists_malformed_iff h).1 ⟨text, hread⟩)
  | property key value => cases definitions (number + 1) lines <;> simp

/-- Reading stops at the first line that is not well formed, whatever comes after it. -/
theorem definitions_eq_error_iff (h : ∀ line ∈ lines, ∀ c ∈ line, isBreak c = false)
    {malformed : Malformed} :
    definitions number lines = .error malformed ↔ ∃ before line after,
      lines = before ++ line :: after ∧ (∀ earlier ∈ before, Line.IsWellFormed earlier) ∧
        ¬ Line.IsWellFormed line ∧ malformed = ⟨number + before.length, String.ofList line⟩ := by
  induction lines generalizing number with
  | nil =>
    constructor
    · intro hnil
      cases hnil
    · rintro ⟨before, line, after, hlines, _⟩
      simp at hlines
  | cons first rest ih =>
    obtain ⟨hfirst, hrest⟩ := List.forall_mem_cons.1 h
    by_cases hwell : Line.IsWellFormed first
    · rw [definitions_cons_eq_error_iff hfirst hwell, ih hrest]
      constructor
      · rintro ⟨before, line, after, rfl, hbefore, hline, rfl⟩
        refine ⟨first :: before, line, after, rfl, List.forall_mem_cons.2 ⟨hwell, hbefore⟩, hline, ?_⟩
        rw [List.length_cons, Nat.add_right_comm, Nat.add_assoc]
      · rintro ⟨before, line, after, hlines, hbefore, hline, rfl⟩
        cases before with
        | nil =>
          obtain rfl := (List.cons.inj hlines).1
          exact absurd hwell hline
        | cons earlier before =>
          obtain ⟨rfl, rfl⟩ := List.cons.inj hlines
          refine ⟨before, line, after, rfl, (List.forall_mem_cons.1 hbefore).2, hline, ?_⟩
          rw [List.length_cons, Nat.add_right_comm, Nat.add_assoc]
    · rw [definitions_cons_of_not hfirst hwell]
      constructor
      · intro herror
        exact ⟨[], first, rest, rfl, nofun, hwell, (Except.error.inj herror).symm⟩
      · rintro ⟨before, line, after, hlines, hbefore, hline, rfl⟩
        cases before with
        | nil =>
          obtain rfl := (List.cons.inj hlines).1
          rfl
        | cons earlier before =>
          obtain rfl := (List.cons.inj hlines).1
          exact absurd (hbefore first List.mem_cons_self) hwell

end Definitions

end Document
end PropertyFiles
