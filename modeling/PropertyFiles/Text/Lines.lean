/-!
# Lines of a text

A line ends at a line feed, a carriage return, or a carriage return followed by a line feed,
and nowhere else. The last line need not be ended.
-/
namespace PropertyFiles.Text

def isBreak (c : Char) : Bool :=
  c == '\n' || c == '\r'

def lines : List Char → List (List Char)
  | [] => []
  | '\r' :: '\n' :: rest => [] :: lines rest
  | c :: rest =>
    if isBreak c then [] :: lines rest
    else
      match lines rest with
      | [] => [[c]]
      | line :: more => (c :: line) :: more

def unlines (texts : List String) : String :=
  String.join (texts.map (· ++ "\n"))

@[simp] theorem lines_nil : lines [] = [] := by
  simp [lines]

/-- A break of two characters ends one line. -/
@[simp] theorem lines_return_feed (rest : List Char) :
    lines ('\r' :: '\n' :: rest) = [] :: lines rest := by
  simp [lines]

@[simp] theorem lines_feed (rest : List Char) : lines ('\n' :: rest) = [] :: lines rest := by
  rw [lines]
  · simp [isBreak]
  · intro r h
    simp at h

/-- A line without breaks goes in front of what follows it up to the next break. -/
theorem lines_append_of_unbroken {line rest first : List Char} {more : List (List Char)}
    (hline : ∀ c ∈ line, isBreak c = false) (hrest : lines rest = first :: more) :
    lines (line ++ rest) = (line ++ first) :: more := by
  induction line with
  | nil => exact hrest
  | cons c line ih =>
    have hc := hline c List.mem_cons_self
    rw [List.cons_append, lines]
    · rw [if_neg (Bool.eq_false_iff.1 hc), ih fun d hd => hline d (List.mem_cons_of_mem c hd)]
      rfl
    · rintro more rfl _
      exact absurd hc (by decide)

theorem lines_append_feed {line : List Char} (rest : List Char)
    (h : ∀ c ∈ line, isBreak c = false) : lines (line ++ '\n' :: rest) = line :: lines rest := by
  rw [lines_append_of_unbroken h (lines_feed rest), List.append_nil]

theorem lines_of_unbroken {cs : List Char} (hne : cs ≠ [])
    (h : ∀ c ∈ cs, isBreak c = false) : lines cs = [cs] := by
  have hlast := h (cs.getLast hne) (List.getLast_mem hne)
  have hsingle : lines [cs.getLast hne] = [[cs.getLast hne]] := by
    rw [lines]
    · rw [if_neg (Bool.eq_false_iff.1 hlast), lines_nil]
    · rintro more _ hnil
      cases hnil
  have hfront : ∀ c ∈ cs.dropLast, isBreak c = false :=
    fun c hc => h c ((List.dropLast_sublist cs).subset hc)
  have hlines := lines_append_of_unbroken hfront hsingle
  rwa [List.dropLast_concat_getLast hne] at hlines

end PropertyFiles.Text
