import Mathlib.Data.List.DropRight
import PropertyFiles.Document
import PropertyFiles.OrderedMap.Lemmas
import PropertyFiles.Proofs.Text.Splitting
/-!
# What reading finds in a text

A text put together from lines has those lines. A key, an equals sign and a value read as that property;
conversely every property that a line defines has a proper key and a proper value, so that it could be
written again.
-/
namespace PropertyFiles

open Text

namespace Text

theorem lines_unlines (texts : List String)
    (h : ∀ text ∈ texts, ∀ c ∈ text.toList, isBreak c = false) :
    lines (unlines texts).toList = texts.map String.toList := by
  induction texts with
  | nil => simp [unlines]
  | cons text rest ih =>
    have hrest := ih fun t ht => h t (List.mem_cons_of_mem _ ht)
    have hsplit : (unlines (text :: rest)).toList =
        text.toList ++ '\n' :: (unlines rest).toList := by
      simp [unlines]
    rw [hsplit, lines_append_feed _ (h text List.mem_cons_self), hrest, List.map_cons]

theorem unlines_append (texts more : List String) :
    unlines (texts ++ more) = unlines texts ++ unlines more := by
  simp only [unlines, List.map_append, String.join_append]

theorem trimStart_trimStart (cs : List Char) : trimStart (trimStart cs) = trimStart cs :=
  List.dropWhile_idempotent isBlank cs

theorem trimStart_eq_self_iff {cs : List Char} :
    trimStart cs = cs ↔ ∀ c ∈ cs.head?, isBlank c = false := by
  cases cs with
  | nil => simp [trimStart]
  | cons c rest => simp [trimStart, List.dropWhile_eq_self_iff]

theorem dropTrailing_eq_self {p : Char → Bool} {cs : List Char} (h : ∀ c ∈ cs, p c = false) :
    dropTrailing p cs = cs := by
  apply List.rdropWhile_eq_self_iff.2
  intro hne
  simp [h _ (List.getLast_mem hne)]

end Text

theorem isBlank_of_isKeyChar {c : Char} (h : isKeyChar c) : isBlank c = false ∧ c ≠ '#' := by
  have hcode := toNat_of_isKeyChar h
  constructor
  · simp only [isBlank, Bool.or_eq_false_iff, Bool.and_eq_false_iff, decide_eq_false_iff_not,
      beq_eq_false_iff_ne]
    omega
  · rintro rfl
    revert hcode
    decide

theorem isBlank_of_isBreak {c : Char} (h : isBreak c) : isBlank c := by
  rcases (by simpa [isBreak] using h : c = '\n' ∨ c = '\r') with rfl | rfl <;> rfl

namespace Line

/-- Whether a text can be the value of a line: no break in it and no blank in front. -/
def IsValue (text : String) : Prop :=
  (∀ c ∈ text.toList, isBreak c = false) ∧ ∀ c ∈ text.toList.head?, isBlank c = false

-- Only the characters of the text are looked at: those of the type are too many to go through.
instance (text : String) : Decidable (IsValue text) :=
  decidable_of_iff
    ((text.toList.all fun c => !isBreak c) ∧ text.toList.head?.all fun c => !isBlank c) <| by
      cases hhead : text.toList.head? <;> simp [IsValue, hhead]

def property? : Line → Option (String × String)
  | .property key value => some (key, value)
  | _ => none

theorem ofContent_of_head {c : Char} {rest : List Char} (hc : c ≠ '#') :
    ofContent (c :: rest) = match definition? (c :: rest) with
      | some (key, value) => .property (String.ofList key) (String.ofList value)
      | none => .malformed (String.ofList (c :: rest)) := by
  unfold ofContent
  split
  · rename_i hnil
    cases hnil
  · rename_i hcomment
    exact absurd (List.cons.inj hcomment).1 hc
  · rfl

theorem isBreak_of_mem_key_value {key value : String} (hkey : isKey key) (hvalue : IsValue value) :
    ∀ c ∈ (key ++ "=" ++ value).toList, isBreak c = false := by
  intro c hc
  simp only [String.toList_append, List.mem_append] at hc
  rcases hc with (hc | hc) | hc
  · by_contra hb
    have hblank := isBlank_of_isBreak (Bool.not_eq_false _ ▸ hb)
    rw [(isBlank_of_isKeyChar ((isKey_iff.1 hkey).2 c hc)).1] at hblank
    exact Bool.false_ne_true hblank
  · obtain rfl : c = '=' := by simpa using hc
    rfl
  · exact hvalue.1 c hc

theorem ofChars_key_value {key value : String} (hkey : isKey key) (hvalue : IsValue value) :
    ofChars (key ++ "=" ++ value).toList = .property key value := by
  obtain ⟨hne, hchars⟩ := isKey_iff.1 hkey
  have htext : (key ++ "=" ++ value).toList = key.toList ++ '=' :: value.toList := by simp
  have hbreak := isBreak_of_mem_key_value hkey hvalue
  rw [htext] at hbreak ⊢
  obtain ⟨first, more, hsplit⟩ := List.exists_cons_of_ne_nil hne
  have hfirst := isBlank_of_isKeyChar (hchars first (hsplit ▸ List.mem_cons_self))
  have hcontent : content (key.toList ++ '=' :: value.toList) =
      key.toList ++ '=' :: value.toList := by
    rw [content, dropTrailing_eq_self hbreak, trimStart_eq_self_iff, hsplit]
    simpa using hfirst.1
  have hdefinition : definition? (key.toList ++ '=' :: value.toList) =
      some (key.toList, value.toList) := by
    apply definition?_key_value hne hchars (trimStart_eq_self_iff.2 hvalue.2)
    intro hfeed
    exact absurd (hvalue.1 _ hfeed) (by decide)
  rw [ofChars, hcontent]
  rw [hsplit, List.cons_append] at hdefinition ⊢
  rw [ofContent_of_head hfirst.2, hdefinition, ← hsplit]
  simp only [String.ofList_toList]

theorem definition?_eq_some {cs key value : List Char} (h : definition? cs = some (key, value)) :
    key ≠ [] ∧ (∀ c ∈ key, isKeyChar c) ∧ trimStart value = value ∧ '\n' ∉ value ∧
      ∀ c ∈ value, c ∈ cs := by
  unfold definition? at h
  split at h
  · rename_i rest hrest
    split at h
    · simp at h
    · rename_i hguard
      simp only [Option.some.injEq, Prod.mk.injEq] at h
      obtain ⟨rfl, rfl⟩ := h
      refine ⟨fun he => hguard (Or.inl he), ?_, trimStart_trimStart rest,
        fun hfeed => hguard (Or.inr hfeed), ?_⟩
      · intro c hc
        exact List.mem_takeWhile_imp hc
      · intro c hc
        apply List.dropWhile_subset isKeyChar
        apply List.dropWhile_subset isBlank
        rw [← trimStart, hrest]
        exact List.mem_cons_of_mem _ (List.dropWhile_subset isBlank hc)
  · simp at h

private theorem mem_of_mem_content {cs : List Char} {c : Char} (h : c ∈ content cs) : c ∈ cs := by
  have h := List.dropWhile_subset isBlank h
  rw [dropTrailing, List.mem_reverse] at h
  exact List.mem_reverse.1 (List.dropWhile_subset isBreak h)

theorem definition?_of_ofChars {cs : List Char} {key value : String}
    (h : ofChars cs = .property key value) :
    definition? (content cs) = some (key.toList, value.toList) := by
  unfold ofChars ofContent at h
  split at h
  · simp at h
  · simp at h
  · split at h
    · rename_i found hfound
      simp only [Line.property.injEq] at h
      obtain ⟨rfl, rfl⟩ := h
      rw [hfound, String.toList_ofList, String.toList_ofList]
    · simp at h

/-- What a line defines has a key and a value that could be written again. -/
theorem isKey_isValue_of_ofChars {cs : List Char} {key value : String}
    (hbreak : ∀ c ∈ cs, isBreak c = false) (h : ofChars cs = .property key value) :
    isKey key ∧ IsValue value := by
  obtain ⟨hne, hchars, htrim, _, hmem⟩ := definition?_eq_some (definition?_of_ofChars h)
  refine ⟨isKey_iff.2 ⟨hne, hchars⟩, ?_, trimStart_eq_self_iff.1 htrim⟩
  intro c hc
  exact hbreak c (mem_of_mem_content (hmem c hc))

end Line

namespace Document

/-- Lines define properties exactly if none of them is malformed, and then those of all lines. -/
theorem definitions_eq_ok_iff {number : Nat} {texts : List (List Char)}
    {entries : List (String × String)} :
    definitions number texts = .ok entries ↔
      (∀ line ∈ texts, ∀ text, Line.ofChars line ≠ .malformed text) ∧
        entries = texts.filterMap fun line => (Line.ofChars line).property? := by
  induction texts generalizing number entries with
  | nil => simp [definitions, eq_comm]
  | cons line rest ih =>
    rw [definitions]
    cases hline : Line.ofChars line with
    | ignored => simp [ih, hline, Line.property?]
    | malformed text => simp [hline]
    | property key value =>
      have hrest := @ih (number + 1)
      cases hmore : definitions (number + 1) rest with
      | ok found =>
        obtain ⟨hgood, rfl⟩ := hrest.1 hmore
        simp only [List.mem_cons, forall_eq_or_imp, hline, ne_eq, reduceCtorEq, not_false_eq_true,
          implies_true, true_and, List.filterMap_cons, Line.property?, Except.ok.injEq]
        exact ⟨fun h => ⟨hgood, h.symm⟩, fun h => h.2.symm⟩
      | error malformed =>
        simp only [List.mem_cons, forall_eq_or_imp, hline, ne_eq, reduceCtorEq, not_false_eq_true,
          implies_true, true_and, false_iff, not_and]
        intro hgood
        rw [hrest.2 ⟨hgood, rfl⟩] at hmore
        cases hmore

theorem exists_read_iff {text : String} :
    (∃ properties, read text = .ok properties) ↔
      ∀ line ∈ lines text.toList, ∀ message, Line.ofChars line ≠ .malformed message := by
  have hok := @definitions_eq_ok_iff 1 (lines text.toList)
  unfold read
  cases hdefinitions : definitions 1 (lines text.toList) with
  | ok entries => simpa using (hok.1 hdefinitions).1
  | error malformed =>
    simp only [reduceCtorEq, exists_false, false_iff]
    intro hgood
    rw [hok.2 ⟨hgood, rfl⟩] at hdefinitions
    cases hdefinitions

/-- Everything that reading finds could be written again. -/
theorem isKey_isValue_of_read {text : String} {properties : OrderedMap String String}
    (h : read text = .ok properties) {e : String × String} (he : e ∈ properties.entries) :
    isKey e.1 ∧ Line.IsValue e.2 := by
  unfold read at h
  split at h
  · rename_i entries hentries
    obtain rfl := Except.ok.inj h
    obtain ⟨_, rfl⟩ := definitions_eq_ok_iff.1 hentries
    obtain ⟨line, hline, hentry⟩ :=
      List.mem_filterMap.1 (OrderedMap.mem_of_mem_entries_ofList he)
    cases hread : Line.ofChars line with
    | property key value =>
      rw [hread] at hentry
      obtain rfl := Option.some.inj hentry
      exact Line.isKey_isValue_of_ofChars ((splits_lines text.toList).unbroken line hline) hread
    | ignored => simp [hread, Line.property?] at hentry
    | malformed text => simp [hread, Line.property?] at hentry
  · simp at h

end Document
end PropertyFiles
