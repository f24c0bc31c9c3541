import Mathlib.Data.List.Basic
import PropertyFiles.Proofs.Text.Splitting
/-!
# How lines are ended

A text may end each of its lines in any of three ways. When breaks are written anew or two texts are
joined, a carriage return and a line feed may come together and make one break of two, so that empty
lines come and go. The lines that are not empty stay the same.
-/
namespace PropertyFiles.Text

inductive Ending
  | feed
  | returnFeed
  | return
deriving DecidableEq, Repr

def Ending.chars : Ending → List Char
  | .feed => ['\n']
  | .returnFeed => ['\r', '\n']
  | .return => ['\r']

private theorem Ends.exists_chars {ending rest : List Char} (h : Ends ending rest) :
    ∃ known : Ending, ending = known.chars := by
  cases h with
  | feed => exact ⟨.feed, rfl⟩
  | returnFeed => exact ⟨.returnFeed, rfl⟩
  | «return» _ => exact ⟨.return, rfl⟩

def nonemptyLines (cs : List Char) : List (List Char) :=
  (lines cs).filter (· ≠ [])

private theorem nonemptyLines_nil : nonemptyLines [] = [] := by
  rw [nonemptyLines, lines_nil, List.filter_nil]

private theorem nonemptyLines_of_unbroken {line : List Char} (h : ∀ c ∈ line, isBreak c = false) :
    nonemptyLines line = [line].filter (· ≠ []) := by
  cases line with
  | nil => exact nonemptyLines_nil
  | cons c rest => rw [nonemptyLines, lines_of_unbroken (by simp) h]

private theorem lines_chars_append (ending : Ending) (rest : List Char) :
    ∃ more, lines (ending.chars ++ rest) = [] :: more ∧
      more.filter (· ≠ []) = nonemptyLines rest := by
  cases ending with
  | feed => exact ⟨_, lines_feed rest, rfl⟩
  | returnFeed => exact ⟨_, lines_return_feed rest, rfl⟩
  | «return» =>
    by_cases hrest : rest.head? = some '\n'
    · obtain ⟨after, rfl⟩ := List.head?_eq_some_iff.1 hrest
      refine ⟨_, lines_return_feed after, ?_⟩
      rw [nonemptyLines, lines_feed, List.filter_cons_of_neg (by simp)]
    · exact ⟨_, lines_return hrest, rfl⟩

private theorem nonemptyLines_ended {line : List Char} (h : ∀ c ∈ line, isBreak c = false)
    (ending : Ending) (rest : List Char) :
    nonemptyLines (line ++ (ending.chars ++ rest)) = nonemptyLines line ++ nonemptyLines rest := by
  obtain ⟨more, hlines, hmore⟩ := lines_chars_append ending rest
  have hwhole : lines (line ++ (ending.chars ++ rest)) = line :: more := by
    rw [lines_append_of_unbroken h hlines, List.append_nil]
  rw [nonemptyLines, hwhole, nonemptyLines_of_unbroken h, ← hmore, ← List.filter_append,
    List.singleton_append]

/-- Texts may be cut and joined where a line is ended. -/
theorem nonemptyLines_append {cs : List Char} (h : ∀ c ∈ cs.getLast?, isBreak c)
    (more : List Char) : nonemptyLines (cs ++ more) = nonemptyLines cs ++ nonemptyLines more := by
  have hsplits := splits_lines cs
  generalize lines cs = texts at hsplits
  induction hsplits with
  | nil => rw [nonemptyLines_nil, List.nil_append, List.nil_append]
  | @last line hne hline =>
    have hbreak := h _ (List.getLast_mem_getLast? hne)
    rw [hline _ (List.getLast_mem hne)] at hbreak
    cases hbreak
  | @ended line ending rest texts hline hends hsplits ih =>
    obtain ⟨known, rfl⟩ := hends.exists_chars
    have hrest : ∀ c ∈ rest.getLast?, isBreak c := by
      intro c hc
      exact h c (List.mem_getLast?_append_of_mem_getLast? (List.mem_getLast?_append_of_mem_getLast? hc))
    rw [List.append_assoc, List.append_assoc, nonemptyLines_ended hline, nonemptyLines_ended hline,
      ih hrest, List.append_assoc]

/-- A text with its breaks written anew, the one with number `n` as `style n`. -/
def rebreak (style : Nat → Ending) : Nat → List Char → List Char
  | _, [] => []
  | n, '\r' :: '\n' :: rest => (style n).chars ++ rebreak style (n + 1) rest
  | n, c :: rest =>
    if isBreak c then (style n).chars ++ rebreak style (n + 1) rest
    else c :: rebreak style n rest

section Rebreak
variable (style : Nat → Ending) (n : Nat)

private theorem rebreak_append_of_unbroken {line : List Char} (h : ∀ c ∈ line, isBreak c = false)
    (rest : List Char) : rebreak style n (line ++ rest) = line ++ rebreak style n rest := by
  induction line with
  | nil => rfl
  | cons c line ih =>
    have hc := h c List.mem_cons_self
    rw [List.cons_append, rebreak]
    · rw [if_neg (Bool.eq_false_iff.1 hc), ih fun d hd => h d (List.mem_cons_of_mem c hd)]
      rfl
    · rintro more rfl _
      exact absurd hc (by decide)

private theorem rebreak_ending {ending rest : List Char} (h : Ends ending rest) :
    rebreak style n (ending ++ rest) = (style n).chars ++ rebreak style (n + 1) rest := by
  cases h with
  | feed => rfl
  | returnFeed => rfl
  | «return» hrest =>
    rw [List.singleton_append, rebreak]
    · rfl
    · rintro more _ rfl
      exact hrest rfl

theorem nonemptyLines_rebreak (cs : List Char) :
    nonemptyLines (rebreak style n cs) = nonemptyLines cs := by
  have hsplits := splits_lines cs
  generalize lines cs = texts at hsplits
  -- Each line that is ended uses up one number.
  induction hsplits generalizing n with
  | nil => rfl
  | last hne hline =>
    have hsame := rebreak_append_of_unbroken style n hline []
    rw [rebreak, List.append_nil] at hsame
    rw [hsame]
  | ended line hline hends _ ih =>
    obtain ⟨known, hknown⟩ := hends.exists_chars
    rw [rebreak_append_of_unbroken style n hline, rebreak_ending style n hends,
      nonemptyLines_ended hline, ih, hknown, nonemptyLines_ended hline]

end Rebreak

/-- Two breaks may become one. -/
example : rebreak (fun n => if n = 0 then .return else .feed) 0 "a\n\r\nb".toList = "a\r\nb".toList := by
  decide

end PropertyFiles.Text
