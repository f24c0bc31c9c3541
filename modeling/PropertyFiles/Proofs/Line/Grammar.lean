import Mathlib.Data.String.Basic
import PropertyFiles.Proofs.Document.Reading
import PropertyFiles.Proofs.Pattern.Backtracking
/-!
# The grammar of lines

A line that is neither blank nor a comment is cut into a key, blanks, an equals sign, blanks and a value,
and there is at most one way to do so. The reader finds this cut, and so does the pattern of definitions,
whose two groups are the key and the value, when it is tried with all its shorter runs.
-/
namespace PropertyFiles

open Text

private theorem Text.of_mem_getLast?_dropTrailing {p : Char → Bool} {cs : List Char} {c : Char}
    (h : c ∈ (dropTrailing p cs).getLast?) : p c = false := by
  have hnot := List.head?_dropWhile_not p cs.reverse
  rw [dropTrailing, List.getLast?_reverse, Option.mem_def] at h
  rw [h] at hnot
  exact hnot

namespace Line

/-- A text cut into a key, blanks, an equals sign, blanks and a value. The value holds no line feed and
does not begin with a blank. -/
structure Cut (cs key before after value : List Char) : Prop where
  text : cs = key ++ (before ++ '=' :: (after ++ value))
  key_ne : key ≠ []
  key : ∀ c ∈ key, isKeyChar c
  before : ∀ c ∈ before, isBlank c
  after : ∀ c ∈ after, isBlank c
  feed : '\n' ∉ value
  head : ∀ c ∈ value.head?, isBlank c = false

/-- Each part of a cut ends where its characters do. -/
theorem Cut.parts {cs key before after value : List Char} (h : Cut cs key before after value) :
    cs.takeWhile isKeyChar = key ∧ (cs.dropWhile isKeyChar).takeWhile isBlank = before ∧
      trimStart (cs.dropWhile isKeyChar) = '=' :: (after ++ value) ∧
      (after ++ value).takeWhile isBlank = after ∧ trimStart (after ++ value) = value := by
  have hrest : ∀ c ∈ (before ++ '=' :: (after ++ value)).head?, isKeyChar c = false := by
    intro c hc
    cases hbefore : before with
    | nil =>
      obtain rfl : '=' = c := by simpa [hbefore] using hc
      decide
    | cons b more =>
      obtain rfl : b = c := by simpa [hbefore] using hc
      have hblank := h.before b (by simp [hbefore])
      apply Bool.eq_false_iff.2
      intro hkey
      rw [(isBlank_of_isKeyChar hkey).1] at hblank
      cases hblank
  have hsign : ∀ c ∈ ('=' :: (after ++ value)).head?, isBlank c = false := by
    intro c hc
    obtain rfl : '=' = c := by simpa using hc
    decide
  obtain ⟨hkey, hdrop⟩ := takeWhile_dropWhile_of_stop h.key hrest
  obtain ⟨hbefore, hequals⟩ := takeWhile_dropWhile_of_stop h.before hsign
  obtain ⟨hafter, hvalue⟩ := takeWhile_dropWhile_of_stop h.after h.head
  rw [h.text, hkey, hdrop]
  exact ⟨rfl, hbefore, hequals, hafter, hvalue⟩

/-- There is one way at most to cut a text. -/
theorem Cut.unique {cs key before after value key' before' after' value' : List Char}
    (h : Cut cs key before after value) (h' : Cut cs key' before' after' value') :
    key = key' ∧ before = before' ∧ after = after' ∧ value = value' := by
  obtain ⟨hkey, hbefore, hrest, hafter, hvalue⟩ := h.parts
  obtain ⟨hkey', hbefore', hrest', hafter', hvalue'⟩ := h'.parts
  have hsame : after ++ value = after' ++ value' :=
    (List.cons.inj (hrest.symm.trans hrest')).2
  rw [hsame] at hafter hvalue
  exact ⟨hkey.symm.trans hkey', hbefore.symm.trans hbefore', hafter.symm.trans hafter',
    hvalue.symm.trans hvalue'⟩

private theorem definition?_eq_some_iff {cs key value : List Char} :
    definition? cs = some (key, value) ↔ ∃ before after, Cut cs key before after value := by
  constructor
  · intro h
    obtain ⟨hne, hkey, htrim, hfeed, _⟩ := definition?_eq_some h
    unfold definition? at h
    split at h
    · rename_i rest hrest
      split at h
      · cases h
      · obtain ⟨rfl, rfl⟩ := Prod.mk.inj (Option.some.inj h)
        refine ⟨(cs.dropWhile isKeyChar).takeWhile isBlank, rest.takeWhile isBlank, ?_, hne, hkey,
          fun c hc => List.mem_takeWhile_imp hc, fun c hc => List.mem_takeWhile_imp hc, hfeed,
          trimStart_eq_self_iff.1 htrim⟩
        rw [trimStart, List.takeWhile_append_dropWhile, ← hrest, trimStart,
          List.takeWhile_append_dropWhile, List.takeWhile_append_dropWhile]
    · cases h
  · rintro ⟨before, after, h⟩
    obtain ⟨hkey, _, hrest, _, hvalue⟩ := h.parts
    unfold definition?
    rw [hrest, hkey]
    simp only [hvalue, h.key_ne, h.feed, or_self, if_false]

private theorem Cut.not_ignored {cs key before after value : List Char}
    (h : Cut cs key before after value) : ¬ (cs = [] ∨ cs.head? = some '#') := by
  obtain ⟨c, more, hkey⟩ := List.exists_cons_of_ne_nil h.key_ne
  have hhead : cs.head? = some c := by rw [h.text, hkey]; rfl
  rintro (rfl | hsign)
  · cases hhead
  · obtain rfl : c = '#' := Option.some.inj (hhead.symm.trans hsign)
    exact absurd (h.key '#' (by simp [hkey])) (by decide)

section Content
variable {cs : List Char} {key value text : String}

private theorem ofContent_eq (cs : List Char) :
    ofContent cs = if cs = [] ∨ cs.head? = some '#' then .ignored
      else match definition? cs with
        | some (key, value) => .property (String.ofList key) (String.ofList value)
        | none => .malformed (String.ofList cs) := by
  cases cs with
  | nil => rfl
  | cons c rest =>
    by_cases hc : c = '#'
    · subst hc
      rfl
    · have hnot : ¬ (c :: rest = [] ∨ (c :: rest).head? = some '#') := by simpa using hc
      exact (ofContent_of_head hc).trans (if_neg hnot).symm

private theorem ofContent_eq_ignored_iff : ofContent cs = .ignored ↔ cs = [] ∨ cs.head? = some '#' := by
  rw [ofContent_eq]
  by_cases hignored : cs = [] ∨ cs.head? = some '#'
  · simp [hignored]
  · rw [if_neg hignored]
    cases definition? cs <;> simp [hignored]

private theorem ofContent_eq_property_iff :
    ofContent cs = .property key value ↔ ∃ before after, Cut cs key.toList before after value.toList := by
  rw [ofContent_eq, ← definition?_eq_some_iff]
  by_cases hignored : cs = [] ∨ cs.head? = some '#'
  · rw [if_pos hignored]
    simp only [reduceCtorEq, false_iff]
    intro h
    obtain ⟨before, after, hcut⟩ := definition?_eq_some_iff.1 h
    exact hcut.not_ignored hignored
  · rw [if_neg hignored]
    cases definition? cs with
    | none => simp
    | some found => simp [Prod.ext_iff, String.ofList_eq]

private theorem ofContent_eq_malformed_iff :
    ofContent cs = .malformed text ↔ ¬ (cs = [] ∨ cs.head? = some '#') ∧
      (¬ ∃ key before after value, Cut cs key before after value) ∧ text = String.ofList cs := by
  have hcut : (∃ key before after value, Cut cs key before after value) ↔
      ∃ found, definition? cs = some found := by
    simp only [Prod.exists, definition?_eq_some_iff]
    exact ⟨fun ⟨key, before, after, value, h⟩ => ⟨key, value, before, after, h⟩,
      fun ⟨key, value, before, after, h⟩ => ⟨key, before, after, value, h⟩⟩
  rw [ofContent_eq, hcut]
  by_cases hignored : cs = [] ∨ cs.head? = some '#'
  · simp [hignored]
  · rw [if_neg hignored]
    cases definition? cs with
    | none => simp [hignored, eq_comm]
    | some found => simp

end Content

/-- What is left of a line lies between blanks in front and breaks at the end, as many as there are. -/
theorem exists_content (cs : List Char) : ∃ blanks breaks,
    cs = blanks ++ content cs ++ breaks ∧ (∀ c ∈ blanks, isBlank c) ∧ (∀ c ∈ breaks, isBreak c) ∧
      (∀ c ∈ (content cs).head?, isBlank c = false) ∧
      ∀ c ∈ (blanks ++ content cs).getLast?, isBreak c = false := by
  have hfront : (dropTrailing isBreak cs).takeWhile isBlank ++ content cs =
      dropTrailing isBreak cs := List.takeWhile_append_dropWhile
  refine ⟨(dropTrailing isBreak cs).takeWhile isBlank, cs.rtakeWhile isBreak, ?_,
    fun c hc => List.mem_takeWhile_imp hc, fun c hc => List.mem_rtakeWhile_imp hc,
    trimStart_eq_self_iff.1 (trimStart_trimStart _), ?_⟩
  · rw [hfront]
    exact List.rdropWhile_append_rtakeWhile.symm
  · rw [hfront]
    exact fun c => of_mem_getLast?_dropTrailing

section Pattern
open Pattern

def keyCharacters : CharSet :=
  .union (.union (.union (.union (.union (.range 'a' 'z') (.range 'A' 'Z')) (.range '0' '9'))
    (.single '.')) (.single '_')) (.single '-')

/-- The pattern of definitions in its pieces. -/
def definitionPieces : List Piece := [
  .spot .start, .run keyCharacters 1 true, .run .blank 0 false, .one (.single '='),
  .run .blank 0 false, .run .notLineFeed 0 true, .spot .lastLineEnd]

example : Pattern.parse "^([a-zA-Z0-9._-]+)\\s*=\\s*(.*)$" = .ok (joined definitionPieces) := by
  decide +kernel

private theorem contains_keyCharacters : keyCharacters.contains = isKeyChar := rfl

private theorem contains_blank : CharSet.blank.contains = isBlank := rfl

private theorem contains_notLineFeed (c : Char) : CharSet.notLineFeed.contains c ↔ c ≠ '\n' := by
  simp [CharSet.notLineFeed, CharSet.contains]

private theorem attempts_lastLineEnd (before : Option Char) (cs : List Char) :
    (attempts [.spot .lastLineEnd] before cs).head? =
      if cs = [] ∨ cs = ['\n'] then some [] else none := by
  rw [head?_attempts_spot]
  simp [Spot.holds, attempts]

private theorem ne_of_mem_getLast?_of_suffix {cs back : List Char}
    (hlast : ∀ c ∈ cs.getLast?, c ≠ '\n') (h : back <:+ cs) : ∀ c ∈ back.getLast?, c ≠ '\n' := by
  obtain ⟨front, rfl⟩ := h
  exact fun c hc => hlast c (List.mem_getLast?_append_of_mem_getLast? hc)

variable {cs : List Char}

/-- The group of a value takes the rest of a text, if that holds no line feed. -/
private theorem attempts_value (hlast : ∀ c ∈ cs.getLast?, c ≠ '\n') (before : Option Char) :
    (attempts [.run .notLineFeed 0 true, .spot .lastLineEnd] before cs).head? =
      if '\n' ∈ cs then none else some [cs] := by
  rw [head?_attempts_run_of_stop, if_pos (Nat.zero_le _), attempts_lastLineEnd]
  · by_cases hfeed : '\n' ∈ cs
    · have hleft : ¬ (cs.dropWhile CharSet.notLineFeed.contains = [] ∨
          cs.dropWhile CharSet.notLineFeed.contains = ['\n']) := by
        rintro (hnil | hfinal)
        · have hall := List.dropWhile_eq_nil_iff.1 hnil '\n' hfeed
          exact (contains_notLineFeed '\n').1 hall rfl
        · have hcs := List.takeWhile_append_dropWhile (p := CharSet.notLineFeed.contains) (l := cs)
          rw [hfinal] at hcs
          exact hlast '\n' (by rw [← hcs, List.getLast?_concat]; rfl) rfl
      rw [if_neg hleft, if_pos hfeed, Option.map_none]
    · have hall : ∀ c ∈ cs, CharSet.notLineFeed.contains c := by
        intro c hc
        rw [contains_notLineFeed]
        rintro rfl
        exact hfeed hc
      rw [if_neg hfeed, List.takeWhile_eq_self_iff.2 hall, List.dropWhile_eq_nil_iff.2 hall]
      rfl
  · rintro before left ⟨c, hc, hcontains⟩
    have hend : ¬ (left = [] ∨ left = ['\n']) := by
      rintro (rfl | rfl)
      · cases hc
      · exact (contains_notLineFeed c).1 hcontains (by simpa using hc.symm)
    rw [attempts_lastLineEnd, if_neg hend]

private theorem attempts_blanks_value (hlast : ∀ c ∈ cs.getLast?, c ≠ '\n') (before : Option Char) :
    (attempts [.run .blank 0 false, .run .notLineFeed 0 true, .spot .lastLineEnd] before cs).head? =
      if '\n' ∈ trimStart cs then none else some [trimStart cs] := by
  have hrest := ne_of_mem_getLast?_of_suffix hlast (List.dropWhile_suffix isBlank)
  rw [← trimStart] at hrest
  rw [head?_attempts_run, if_pos (Nat.zero_le _), contains_blank, ← trimStart, attempts_value hrest]
  · simp only [Bool.false_eq_true, if_false, Option.map_id']
  · -- A shorter run leaves the same line feeds and more.
    rw [contains_blank, ← trimStart, attempts_value hrest]
    intro hlongest front back hcs hfront
    have hfeed : '\n' ∈ trimStart cs := by
      by_contra hnone
      rw [if_neg hnone] at hlongest
      cases hlongest
    have hback : '\n' ∈ back := by
      rw [hcs, trimStart, List.dropWhile_append_of_pos hfront] at hfeed
      exact List.dropWhile_subset isBlank hfeed
    rw [attempts_value (ne_of_mem_getLast?_of_suffix hlast ⟨front, hcs.symm⟩), if_pos hback]

private theorem attempts_equals (more : List Piece) (before : Option Char) (cs : List Char) :
    (attempts (.run .blank 0 false :: .one (.single '=') :: more) before cs).head? =
      match trimStart cs with
      | '=' :: rest => (attempts more (some '=') rest).head?
      | _ => none := by
  rw [head?_attempts_run_of_stop, if_pos (Nat.zero_le _), contains_blank, ← trimStart]
  · simp only [Bool.false_eq_true, if_false, Option.map_id']
    cases htrim : trimStart cs with
    | nil => rfl
    | cons c rest =>
      rw [head?_attempts_one]
      by_cases hc : c = '='
      · subst hc
        rfl
      · simp [CharSet.contains, hc]
  · rintro before left ⟨c, hc, hblank⟩
    obtain ⟨rest, rfl⟩ := List.head?_eq_some_iff.1 hc
    have hsign : ¬ (CharSet.single '=').contains c := by
      intro hcontains
      obtain rfl : c = '=' := by simpa [CharSet.contains] using hcontains
      exact absurd hblank (by decide)
    rw [head?_attempts_one, if_neg hsign]

/-- The first match of the pattern is the definition that is read. -/
theorem firstMatch?_definitionPieces (hlast : ∀ c ∈ cs.getLast?, c ≠ '\n') :
    firstMatch? definitionPieces cs = (definition? cs).map fun found => [found.1, found.2] := by
  have hstart : Spot.start.holds none cs = true := rfl
  rw [firstMatch?, definitionPieces, head?_attempts_spot, if_pos hstart, head?_attempts_run_of_stop]
  · simp only [contains_keyCharacters, attempts_equals, if_true]
    rw [definition?]
    cases hrest : trimStart (cs.dropWhile isKeyChar) with
    | nil => simp
    | cons c rest =>
      by_cases hc : c = '='
      · subst hc
        have hsuffix : rest <:+ cs :=
          (List.suffix_cons '=' rest).trans <|
            hrest ▸ (List.dropWhile_suffix isBlank).trans (List.dropWhile_suffix isKeyChar)
        simp only [attempts_blanks_value (ne_of_mem_getLast?_of_suffix hlast hsuffix)]
        by_cases hkey : cs.takeWhile isKeyChar = []
        · simp [hkey]
        · have hlength : 1 ≤ (cs.takeWhile isKeyChar).length := List.length_pos_iff.2 hkey
          by_cases hfeed : '\n' ∈ trimStart rest <;> simp [hkey, hlength, hfeed]
      · simp [hc]
  · rintro before left ⟨c, hc, hkey⟩
    obtain ⟨rest, rfl⟩ := List.head?_eq_some_iff.1 hc
    have htrim : trimStart (c :: rest) = c :: rest :=
      trimStart_eq_self_iff.2 fun b hb => by
        obtain rfl : c = b := by simpa using hb
        exact (isBlank_of_isKeyChar hkey).1
    have hsign : c ≠ '=' := by
      rintro rfl
      exact absurd hkey (by decide)
    rw [attempts_equals, htrim]
    simp [hsign]

end Pattern

def IsBlank (line : List Char) : Prop :=
  ∀ c ∈ line, isBlank c

/-- A line whose first character that is no blank is a number sign. -/
def IsComment (line : List Char) : Prop :=
  ∃ blanks rest, line = blanks ++ '#' :: rest ∧ ∀ c ∈ blanks, isBlank c

/-- A line that can be cut as a definition after the blanks in front. -/
def Defines (line : List Char) (key value : String) : Prop :=
  ∃ blanks before after s, line = blanks ++ s ∧ (∀ c ∈ blanks, isBlank c) ∧
    Cut s key.toList before after value.toList

def IsWellFormed (line : List Char) : Prop :=
  IsBlank line ∨ IsComment line ∨ ∃ key value, Defines line key value

section Unbroken
variable {line : List Char}

private theorem Cut.trimStart_append {blanks s key before after value : List Char}
    (h : Cut s key before after value) (hblanks : ∀ c ∈ blanks, isBlank c) :
    trimStart (blanks ++ s) = s := by
  obtain ⟨c, more, hkey⟩ := List.exists_cons_of_ne_nil h.key_ne
  apply (takeWhile_dropWhile_of_stop hblanks _).2
  intro b hb
  obtain rfl : c = b := by simpa [h.text, hkey] using hb
  exact (isBlank_of_isKeyChar (h.key c (by simp [hkey]))).1

private theorem content_of_unbroken (h : ∀ c ∈ line, isBreak c = false) :
    content line = trimStart line := by
  rw [content, dropTrailing_eq_self h]

theorem ofChars_eq_ignored_iff (h : ∀ c ∈ line, isBreak c = false) :
    ofChars line = .ignored ↔ IsBlank line ∨ IsComment line := by
  have hcomment : (trimStart line).head? = some '#' ↔ IsComment line := by
    constructor
    · intro hhead
      obtain ⟨rest, hrest⟩ := List.head?_eq_some_iff.1 hhead
      refine ⟨line.takeWhile isBlank, rest, ?_, fun c hc => List.mem_takeWhile_imp hc⟩
      rw [← hrest, trimStart, List.takeWhile_append_dropWhile]
    · rintro ⟨blanks, rest, rfl, hblanks⟩
      have hsign : ∀ c ∈ ('#' :: rest).head?, isBlank c = false := by
        intro c hc
        obtain rfl : '#' = c := by simpa using hc
        decide
      rw [trimStart, (takeWhile_dropWhile_of_stop hblanks hsign).2]
      rfl
  rw [ofChars, content_of_unbroken h, ofContent_eq_ignored_iff, hcomment, trimStart,
    List.dropWhile_eq_nil_iff, IsBlank]

theorem ofChars_eq_property_iff (h : ∀ c ∈ line, isBreak c = false) {key value : String} :
    ofChars line = .property key value ↔ Defines line key value := by
  rw [ofChars, content_of_unbroken h, ofContent_eq_property_iff]
  constructor
  · rintro ⟨before, after, hcut⟩
    exact ⟨line.takeWhile isBlank, before, after, trimStart line,
      List.takeWhile_append_dropWhile.symm, fun c hc => List.mem_takeWhile_imp hc, hcut⟩
  · rintro ⟨blanks, before, after, s, rfl, hblanks, hcut⟩
    rw [hcut.trimStart_append hblanks]
    exact ⟨before, after, hcut⟩

theorem exists_malformed_iff (h : ∀ c ∈ line, isBreak c = false) :
    (∃ text, ofChars line = .malformed text) ↔ ¬ IsWellFormed line := by
  have hignored := ofChars_eq_ignored_iff h
  have hproperty := @ofChars_eq_property_iff line h
  rw [IsWellFormed, ← or_assoc, ← hignored]
  simp only [← hproperty]
  cases ofChars line <;> simp

end Unbroken

/-- Reading accepts exactly the grammar of lines. What counts of a line is what lies between the blanks in
front and the breaks at the end. It is ignored if it is empty or begins with a number sign; otherwise the
line defines a property exactly if this text can be cut into a key, blanks, an equals sign, blanks and a
value. There is one cut at most, and its key and value are what the groups of the pattern of definitions
take at its first match. What cannot be cut is malformed, and is reported. -/
theorem read_follows_grammar (text : String) :
    let s := content text.toList
    (∃ blanks breaks, text.toList = blanks ++ s ++ breaks ∧ (∀ c ∈ blanks, isBlank c) ∧
      (∀ c ∈ breaks, isBreak c) ∧ (∀ c ∈ s.head?, isBlank c = false) ∧
      ∀ c ∈ (blanks ++ s).getLast?, isBreak c = false) ∧
    (read text = .ignored ↔ s = [] ∨ s.head? = some '#') ∧
    (∀ key value, read text = .property key value ↔
      ∃ before after, Cut s key.toList before after value.toList) ∧
    (∀ key before after value key' before' after' value', Cut s key before after value →
      Cut s key' before' after' value' →
        key = key' ∧ before = before' ∧ after = after' ∧ value = value') ∧
    (∀ groups, Pattern.firstMatch? definitionPieces s = some groups ↔
      ∃ key before after value, groups = [key, value] ∧ Cut s key before after value) ∧
    ∀ message, read text = .malformed message ↔
      s ≠ [] ∧ s.head? ≠ some '#' ∧ (¬ ∃ key before after value, Cut s key before after value) ∧
        message = String.ofList s := by
  intro s
  have hcontent := exists_content text.toList
  have hlast : ∀ c ∈ s.getLast?, c ≠ '\n' := by
    obtain ⟨blanks, breaks, _, _, _, _, hbreak⟩ := hcontent
    rintro c hc rfl
    exact absurd (hbreak _ (List.mem_getLast?_append_of_mem_getLast? hc)) (by decide)
  refine ⟨hcontent, ofContent_eq_ignored_iff, fun key value => ofContent_eq_property_iff,
    fun _ _ _ _ _ _ _ _ => Cut.unique, ?_, ?_⟩
  · intro groups
    simp only [firstMatch?_definitionPieces hlast, Option.map_eq_some_iff, Prod.exists,
      definition?_eq_some_iff]
    constructor
    · rintro ⟨key, value, ⟨before, after, hcut⟩, rfl⟩
      exact ⟨key, before, after, value, rfl, hcut⟩
    · rintro ⟨key, before, after, value, rfl, hcut⟩
      exact ⟨key, value, ⟨before, after, hcut⟩, rfl⟩
  · intro message
    rw [read, ofChars, ofContent_eq_malformed_iff, not_or, and_assoc]

example : read " k\x0b=\n\u2028v =\r \r\r\n" = .property "k" "v =\r " := by
  decide +kernel

end Line
end PropertyFiles
