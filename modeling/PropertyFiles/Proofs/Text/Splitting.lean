import PropertyFiles.Text.Lines
/-!
# How a text is split into lines

Every text is split into lines in exactly one way: each line holds no break and is ended by a line feed, a
carriage return or both, a carriage return in front of a line feed never being taken alone. Only the last
line may have no end, and then it is not empty.
-/
namespace PropertyFiles.Text

/-- The ways to end a line in front of the rest of a text. -/
inductive Ends : List Char → List Char → Prop
  | feed (rest : List Char) : Ends ['\n'] rest
  | returnFeed (rest : List Char) : Ends ['\r', '\n'] rest
  | return {rest : List Char} : rest.head? ≠ some '\n' → Ends ['\r'] rest

/-- A text is split into lines. -/
inductive Splits : List Char → List (List Char) → Prop
  | nil : Splits [] []
  | last {line : List Char} :
    line ≠ [] → (∀ c ∈ line, isBreak c = false) → Splits line [line]
  | ended (line : List Char) {ending rest : List Char} {lines : List (List Char)} :
    (∀ c ∈ line, isBreak c = false) → Ends ending rest → Splits rest lines →
      Splits (line ++ (ending ++ rest)) (line :: lines)

theorem Splits.unbroken {cs : List Char} {texts : List (List Char)} (h : Splits cs texts) :
    ∀ line ∈ texts, ∀ c ∈ line, isBreak c = false := by
  induction h with
  | nil => nofun
  | last _ hline => simpa using hline
  | ended line hline _ _ ih => exact List.forall_mem_cons.2 ⟨hline, ih⟩

theorem lines_return {rest : List Char} (h : rest.head? ≠ some '\n') :
    lines ('\r' :: rest) = [] :: lines rest := by
  rw [lines]
  · rfl
  · rintro more _ rfl
    exact h rfl

private theorem lines_ending {ending rest : List Char} (h : Ends ending rest) :
    lines (ending ++ rest) = [] :: lines rest := by
  cases h with
  | feed => exact lines_feed rest
  | returnFeed => exact lines_return_feed rest
  | «return» hrest => exact lines_return hrest

private theorem lines_eq_nil_iff {cs : List Char} : lines cs = [] ↔ cs = [] := by
  constructor
  · intro h
    fun_cases lines cs <;> simp_all [lines]
  · rintro rfl
    exact lines_nil

/-- A character that is no break goes to the first line. -/
theorem Splits.cons {cs first : List Char} {more : List (List Char)} {c : Char}
    (h : Splits cs (first :: more)) (hc : isBreak c = false) : Splits (c :: cs) ((c :: first) :: more) := by
  cases h with
  | last hne hline => exact Splits.last (by simp) (by simpa [hc] using hline)
  | ended line hline hends hrest => exact Splits.ended (c :: first) (by simpa [hc] using hline) hends hrest

theorem splits_lines (cs : List Char) : Splits cs (lines cs) := by
  -- No text, a break of two characters, one of one, the last character, and one in front of a line.
  induction cs using lines.induct with
  | case1 =>
    rw [lines_nil]
    exact Splits.nil
  | case2 rest ih =>
    rw [lines_return_feed]
    exact Splits.ended [] (by simp) (Ends.returnFeed rest) ih
  | case3 c rest hpair hc ih =>
    rw [lines, if_pos hc]
    · have hends : Ends [c] rest := by
        rcases (by simpa [isBreak] using hc : c = '\n' ∨ c = '\r') with rfl | rfl
        · exact Ends.feed rest
        · apply Ends.return
          intro hhead
          obtain ⟨more, rfl⟩ := List.head?_eq_some_iff.1 hhead
          exact hpair more rfl rfl
      exact Splits.ended [] (by simp) hends ih
    · exact hpair
  | case4 c rest hpair hc hnil ih =>
    obtain rfl := lines_eq_nil_iff.1 hnil
    rw [lines_of_unbroken (by simp) (by simpa using hc)]
    exact Splits.last (by simp) (by simpa using hc)
  | case5 c rest hpair hc first more hmore ih =>
    rw [hmore] at ih
    rw [lines, if_neg hc, hmore]
    · exact ih.cons (Bool.eq_false_iff.2 hc)
    · exact hpair

theorem splits_iff {cs : List Char} {texts : List (List Char)} :
    Splits cs texts ↔ texts = lines cs := by
  constructor
  · intro h
    induction h with
    | nil => rw [lines_nil]
    | last hne hline => rw [lines_of_unbroken hne hline]
    | ended line hline hends _ ih =>
      rw [lines_append_of_unbroken hline (lines_ending hends), List.append_nil, ih]
  · rintro rfl
    exact splits_lines cs

end PropertyFiles.Text
