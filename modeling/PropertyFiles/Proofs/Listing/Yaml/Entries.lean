import PropertyFiles.Proofs.Listing.Yaml.Reading
/-!
# Entries of YAML listings

What is written for an entry begins a line and continues only on lines that begin with a space, so a
listing falls apart into its entries, and each of them is read by itself. Keys are of the key grammar: they
stay on one line, are short enough in front of a colon, and are no mark between documents.
-/
namespace PropertyFiles.Listing.Yaml

/-- Whether each line break in a text is followed by a line that continues it. -/
def isJoined : List Char → Bool
  | [] => true
  | c :: rest => (c != '\n' || rest.head?.any isSpacing) && isJoined rest

/-- Characters that may stand on a line and those that continue it. -/
structure Continues (cs : List Char) : Prop where
  readable : ∀ c ∈ cs, isReadable c
  joined : isJoined cs

private theorem isJoined_append {cs more : List Char} (h : isJoined cs) (h' : isJoined more) :
    isJoined (cs ++ more) := by
  induction cs with
  | nil => exact h'
  | cons c rest ih =>
    simp only [isJoined, Bool.and_eq_true, Bool.or_eq_true, List.cons_append, List.head?_append] at h ⊢
    refine ⟨h.1.imp_right fun hany => ?_, ih h.2⟩
    cases rest with
    | nil => cases hany
    | cons d rest => exact hany

theorem Continues.append {cs more : List Char} (h : Continues cs) (h' : Continues more) :
    Continues (cs ++ more) :=
  ⟨List.forall_mem_append.2 ⟨h.readable, h'.readable⟩, isJoined_append h.joined h'.joined⟩

private theorem continues_of_isDirect {cs : List Char} (h : ∀ c ∈ cs, isDirect c) : Continues cs := by
  induction cs with
  | nil => exact ⟨nofun, rfl⟩
  | cons c rest ih =>
    obtain ⟨hc, hrest⟩ := List.forall_mem_cons.1 h
    have hbreak : c ≠ '\n' := by
      rintro rfl
      cases hc
    refine ⟨List.forall_mem_cons.2 ⟨?_, (ih hrest).readable⟩, ?_⟩
    · rw [isReadable, show (0x20 ≤ c.toNat && c.toNat ≤ 0x7E) = true from hc, Bool.or_true]
    · simp [isJoined, hbreak, (ih hrest).joined]

private theorem isDirect_of_mem_escaped {c d : Char} (h : d ∈ escaped c) : isDirect d := by
  have hdigit : ∀ digit, digit < 16 → isDirect (Text.hexDigit .upper digit) := by decide
  unfold escaped at h
  split at h
  · rename_i letter hletter
    have hmem : (c, letter) ∈ shortEscapes := mem_of_lookup hletter
    have hletters : ∀ e ∈ shortEscapes, isDirect e.2 := by decide
    rcases (by simpa using h : d = '\\' ∨ d = letter) with rfl | rfl
    · decide
    · exact hletters _ hmem
  · split_ifs at h with hc
    · rwa [List.mem_singleton.1 h]
    all_goals
      rcases List.mem_cons.1 h with rfl | h
      · decide
      rcases List.mem_cons.1 h with rfl | h
      · decide
      exact Text.forall_mem_hexDigits (isDirect ·) hdigit _ _ d h

private theorem continues_folding {style : Style} {afterWord : Bool} {cs lines : List Char}
    (h : Folding afterWord cs lines) (hdirect : ∀ c ∈ cs, isDirect c) :
    Continues (lines.flatMap (written style)) := by
  have hwritten {c : Char} (hc : isDirect c) : Continues (written style c) := by
    apply continues_of_isDirect
    unfold written
    split_ifs
    · exact List.all_eq_true.1 rfl
    · simpa using hc
  induction h with
  | nil => exact ⟨nofun, rfl⟩
  | keep _ ih =>
    obtain ⟨hc, hrest⟩ := List.forall_mem_cons.1 hdirect
    exact (hwritten hc).append (ih hrest)
  | @fold c cs lines _ _ ih =>
    obtain ⟨hc, hrest⟩ := List.forall_mem_cons.1 (List.forall_mem_cons.1 hdirect).2
    have hfold : Continues ('\n' :: indentation) := ⟨List.all_eq_true.1 rfl, rfl⟩
    have hbreak : ('\n' :: indentation).flatMap (written style) = '\n' :: indentation := by
      simp [indentation, written]
    rw [List.flatMap_append, hbreak, List.flatMap_cons]
    exact hfold.append ((hwritten hc).append (ih hrest))

private theorem continues_scalar (foldable : Bool) (column : Nat) (cs : List Char) :
    Continues (scalar foldable column cs) := by
  have hsingle : Continues ['\x27'] := ⟨List.all_eq_true.1 rfl, rfl⟩
  have hdouble : Continues ['\x22'] := ⟨List.all_eq_true.1 rfl, rfl⟩
  unfold scalar styleOf
  by_cases hdirect : cs.all isDirect
  · have hfolded (style : Style) (column : Nat) : Continues (folded style foldable column false cs) := by
      obtain ⟨lines, hlines, heq⟩ := exists_folding style foldable column false cs
      rw [heq]
      exact continues_folding hlines (List.all_eq_true.1 hdirect)
    simp only [hdirect, Bool.not_true, Bool.false_eq_true, if_false]
    split_ifs
    · exact (hsingle.append (hfolded .single (column + 1))).append hsingle
    · exact hfolded .plain column
  · have hescaped : Continues (cs.flatMap escaped) := by
      apply continues_of_isDirect
      intro d hd
      obtain ⟨c, _, hc⟩ := List.mem_flatMap.1 hd
      exact isDirect_of_mem_escaped hc
    simp only [hdirect, Bool.not_false, if_true]
    exact (hdouble.append hescaped).append hdouble

private theorem items_append {item rest : List Char} (h : isJoined item)
    (hrest : rest.head?.any isSpacing = false) : items (item ++ '\n' :: rest) = item :: items rest := by
  induction item with
  | nil => simp [items, hrest]
  | cons c item ih =>
    rw [isJoined, Bool.and_eq_true, Bool.or_eq_true, bne_iff_ne] at h
    have hline : ¬ (c = '\n' ∧ !(item ++ '\n' :: rest).head?.any isSpacing) := by
      rintro ⟨hc, hany⟩
      have hjoin := h.1.resolve_left (not_not.2 hc)
      cases item with
      | nil => cases hjoin
      | cons d item => exact absurd hjoin (by simpa using hany)
    rw [List.cons_append, items, if_neg hline, ih h.2]

section Keys
variable {key : List Char} (hkey : ∀ c ∈ key, isKeyChar c)
include hkey

private theorem all_isDirect_of_isKeyChar : key.all isDirect := by
  rw [List.all_eq_true]
  intro c hc
  have hcode := toNat_of_isKeyChar (hkey c hc)
  simp only [isDirect, Bool.and_eq_true, decide_eq_true_eq]
  omega

private theorem folded_key (style : Style) (foldable : Bool) (column : Nat) :
    folded style foldable column false key = key := by
  have hspace : ' ' ∉ key := fun h => absurd (hkey _ h) (by decide)
  have hquote : '\x27' ∉ key := fun h => absurd (hkey _ h) (by decide)
  obtain ⟨lines, hlines, heq⟩ := exists_folding style foldable column false key
  rw [heq, hlines.eq_of_no_space hspace]
  have hwritten : ∀ c ∈ key, written style c = [c] := by
    intro c hc
    rw [written, if_neg]
    rintro ⟨_, rfl⟩
    exact hquote hc
  rw [List.flatMap_congr hwritten, List.flatMap_singleton']

/-- A key is written as it is, perhaps in single quotes. -/
private theorem scalar_key (foldable : Bool) (column : Nat) :
    scalar foldable column key = key ∧ isIndicated key = false ∨
      scalar foldable column key = '\x27' :: key ++ ['\x27'] := by
  simp only [scalar, styleOf, all_isDirect_of_isKeyChar hkey, Bool.not_true, Bool.false_eq_true, if_false]
  cases hquotes : needsQuotes key with
  | true => exact Or.inr (by simp [folded_key hkey])
  | false =>
    simp only [needsQuotes, Bool.or_eq_false_iff] at hquotes
    exact Or.inl ⟨by simp [folded_key hkey], hquotes.1.1.1.1.1⟩

end Keys

private theorem isMarker_eq_false {cs rest : List Char} (h : isIndicated cs = false) :
    isMarker (cs ++ ':' :: rest) = false := by
  rcases cs with _ | ⟨a, _ | ⟨b, _ | ⟨c, more⟩⟩⟩
  · cases h
  · simp [isMarker]
  · simp [isMarker]
  · simp only [isMarker, List.cons_append, List.take_succ_cons, List.take_zero, Bool.or_eq_false_iff,
      beq_eq_false_iff_ne]
    constructor
    · intro hmark
      cases hmark
      cases h
    · intro hmark
      cases hmark
      cases h

/-- A key in front of its value is read with it, if it is on one line and not too long. -/
private theorem pair?_append {node : Node} {written : List Char} (value : List Char)
    (hscalar : ∀ after, MayFollow after → scalar? (written ++ after) = some (node, after))
    (hbreak : '\n' ∉ written) (hlength : written.length ≤ keyLimit)
    (hmarker : ∀ rest, isMarker (written ++ ':' :: rest) = false) :
    pair? (written ++ ':' :: ' ' :: value) = (whole? value).map (node, ·) := by
  -- The first line holds the key, the colon and the space, and the value as far as its first break.
  have hfront : ∀ c ∈ written ++ [':', ' '], decide (c ≠ '\n') := by
    intro c hc
    apply decide_eq_true
    rintro rfl
    simp [hbreak] at hc
  have hsplit : written ++ ':' :: ' ' :: value = (written ++ [':', ' ']) ++ value := by
    rw [List.append_assoc]
    rfl
  have htake : (written ++ ':' :: ' ' :: value).takeWhile (· ≠ '\n') =
      written ++ ':' :: ' ' :: value.takeWhile (· ≠ '\n') := by
    rw [hsplit, List.takeWhile_append_of_pos hfront, List.append_assoc]
    rfl
  have hdrop : (written ++ ':' :: ' ' :: value).dropWhile (· ≠ '\n') = value.dropWhile (· ≠ '\n') := by
    rw [hsplit, List.dropWhile_append_of_pos hfront]
  have hlimit : ¬ keyLimit < (written ++ ':' :: ' ' :: value.takeWhile (· ≠ '\n')).length -
      (':' :: ' ' :: value.takeWhile (· ≠ '\n')).length := by
    rw [List.length_append]
    omega
  have hbehind (cs : List Char) : behind? ':' (':' :: ' ' :: cs) = some cs := rfl
  unfold pair?
  simp only [htake, hdrop, hscalar _ (Or.inr ⟨_, rfl⟩), hmarker, hbehind, Option.bind_eq_bind,
    Option.bind_some, hlimit, decide_false, Bool.or_false, Bool.false_eq_true, if_false,
    List.takeWhile_append_dropWhile]
  cases whole? value <;> rfl

private theorem behind?_cons (mark : Char) (cs : List Char) :
    behind? mark (mark :: ' ' :: cs) = some cs := by
  simp [behind?, Implicit.after?]

private theorem behind?_of_head? {mark : Char} {cs : List Char} (h : cs.head? ≠ some mark) :
    behind? mark cs = none := by
  cases cs with
  | nil => rfl
  | cons c rest =>
    have hc : c ≠ mark := by simpa using h
    simp [behind?, Implicit.after?, hc]

private theorem entries?_question {key value : List Char} {keyNode valueNode : Node}
    (hkey : whole? key = some keyNode) (hvalue : whole? value = some valueNode)
    (more : List (List Char)) :
    entries? (('?' :: ' ' :: key) :: (':' :: ' ' :: value) :: more) =
      (entries? more).map ((keyNode, valueNode) :: ·) := by
  rw [entries?]
  case heq => exact behind?_cons '?' key
  simp only [behind?_cons, hkey, hvalue, Option.bind_eq_bind, Option.bind_some]
  cases entries? more <;> rfl

private theorem entries?_pair {item : List Char} {node : Node × Node} (hitem : item.head? ≠ some '?')
    (hpair : pair? item = some node) (more : List (List Char)) :
    entries? (item :: more) = (entries? more).map (node :: ·) := by
  rw [entries?]
  case heq => exact behind?_of_head? hitem
  simp only [hpair, Option.bind_eq_bind, Option.bind_some]
  cases entries? more <;> rfl

private theorem ne_nil_of_isShortKey {key : List Char} (hshort : isShortKey key) : key ≠ [] := by
  rintro rfl
  cases hshort

section Entry
variable {key value rest : List Char} (hkey : ∀ c ∈ key, isKeyChar c)
include hkey

private theorem pair?_entry (hshort : isShortKey key) (value : List Char) :
    pair? (scalar false 0 key ++ ':' :: ' ' :: value) =
      (whole? value).map (.ofText (String.ofList key), ·) := by
  have hlength : key.length < longKey := by
    rw [isShortKey, Bool.and_eq_true, decide_eq_true_eq] at hshort
    exact hshort.2
  have hlimit : longKey + 2 ≤ keyLimit := by decide
  have hbreak : '\n' ∉ key := not_mem_break (all_isDirect_of_isKeyChar hkey)
  have hscalar (after : List Char) := @scalar?_scalar after false 0 key
  rcases scalar_key hkey false 0 with ⟨heq, hindicated⟩ | heq
  · rw [heq] at hscalar ⊢
    exact pair?_append value hscalar hbreak (by omega) fun _ => isMarker_eq_false hindicated
  · have hwritten : ('\x27' :: key ++ ['\x27']).length = key.length + 2 := by simp
    rw [heq] at hscalar ⊢
    refine pair?_append value hscalar ?_ (by omega) fun _ => ?_
    · simpa using hbreak
    · simp [isMarker]

private theorem head_scalar_key (hne : key ≠ []) (foldable : Bool) (column : Nat) :
    ∃ c more, scalar foldable column key = c :: more ∧ c ∉ [' ', '\n', '?'] := by
  rcases scalar_key hkey foldable column with ⟨heq, _⟩ | heq
  · obtain ⟨c, more, rfl⟩ := List.exists_cons_of_ne_nil hne
    have hc := hkey c List.mem_cons_self
    refine ⟨c, more, heq, fun hmem => ?_⟩
    simp only [List.mem_cons, List.not_mem_nil, or_false] at hmem
    rcases hmem with rfl | rfl | rfl <;> cases hc
  · exact ⟨'\x27', key ++ ['\x27'], heq, by decide⟩

private theorem head_entry (value : List Char) :
    ∃ c more, entry key value = c :: more ∧ isSpacing c = false := by
  unfold entry
  split_ifs with hshort
  · obtain ⟨c, more, heq, hc⟩ := head_scalar_key hkey (ne_nil_of_isShortKey hshort) false 0
    refine ⟨c, _, by simp only [heq, List.cons_append]; rfl, ?_⟩
    simp only [List.mem_cons, not_or] at hc
    simp [isSpacing, hc]
  · exact ⟨'?', _, rfl, rfl⟩

private theorem entries?_entry (value : List Char) (hrest : rest.head?.any isSpacing = false) :
    entries? (items (entry key value ++ rest)) =
      (entries? (items rest)).map ((.ofText (String.ofList key), .ofText (String.ofList value)) :: ·) := by
  have hcolon : Continues [':', ' '] := ⟨List.all_eq_true.1 rfl, rfl⟩
  have hquestion : Continues ['?', ' '] := ⟨List.all_eq_true.1 rfl, rfl⟩
  by_cases hshort : isShortKey key
  · let column := (scalar false 0 key).length + 2
    let item := scalar false 0 key ++ ':' :: ' ' :: scalar true column value
    have htext : entry key value ++ rest = item ++ '\n' :: rest := by
      simp [entry, hshort, item, column]
    have hjoined : isJoined item :=
      ((continues_scalar false 0 key).append (hcolon.append (continues_scalar true column value))).joined
    have hpair : pair? item = some (.ofText (String.ofList key), .ofText (String.ofList value)) := by
      rw [pair?_entry hkey hshort, whole?_scalar, Option.map_some]
    have hhead : item.head? ≠ some '?' := by
      obtain ⟨c, more, heq, hc⟩ := head_scalar_key hkey (ne_nil_of_isShortKey hshort) false 0
      simp only [item, heq, List.cons_append, List.head?_cons, ne_eq, Option.some.injEq]
      rintro rfl
      exact absurd hc (by decide)
    rw [htext, items_append hjoined hrest, entries?_pair hhead hpair]
  · let keyItem := '?' :: ' ' :: scalar true 2 key
    let valueItem := ':' :: ' ' :: scalar true 2 value
    have htext : entry key value ++ rest = keyItem ++ '\n' :: (valueItem ++ '\n' :: rest) := by
      simp [entry, hshort, keyItem, valueItem]
    have hkeyJoined : isJoined keyItem :=
      (hquestion.append (continues_scalar true 2 key)).joined
    have hvalueJoined : isJoined valueItem :=
      (hcolon.append (continues_scalar true 2 value)).joined
    rw [htext, items_append hkeyJoined rfl, items_append hvalueJoined hrest,
      entries?_question (whole?_scalar ..) (whole?_scalar ..)]

end Entry

section Mapping
variable {entries : List (String × String)}

def entriesText (entries : List (String × String)) : List Char :=
  entries.flatMap fun e => entry e.1.toList e.2.toList

private theorem not_spacing_entriesText (h : ∀ e ∈ entries, isKey e.1) :
    (entriesText entries).head?.any isSpacing = false := by
  cases entries with
  | nil => rfl
  | cons e rest =>
    have hkey := (isKey_iff.1 (h e List.mem_cons_self)).2
    obtain ⟨c, more, heq, hc⟩ := head_entry hkey e.2.toList
    simp [entriesText, heq, hc]

private theorem entries?_entriesText (h : ∀ e ∈ entries, isKey e.1) :
    entries? (items (entriesText entries)) =
      some (entries.map fun e => (.ofText e.1, .ofText e.2)) := by
  induction entries with
  | nil => rfl
  | cons e rest ih =>
    obtain ⟨he, hrest⟩ := List.forall_mem_cons.1 h
    have hentry := entries?_entry (isKey_iff.1 he).2 e.2.toList (not_spacing_entriesText hrest)
    rw [entriesText, List.flatMap_cons, ← entriesText, hentry, ih hrest]
    simp

private theorem isReadable_of_mem_entry (key value : List Char) : ∀ c ∈ entry key value, isReadable c := by
  have hscalar (foldable : Bool) (column : Nat) (cs : List Char) :
      ∀ c ∈ scalar foldable column cs, isReadable c := (continues_scalar foldable column cs).readable
  unfold entry
  split_ifs
  · simp only [List.forall_mem_append]
    exact ⟨⟨⟨hscalar _ _ _, List.all_eq_true.1 rfl⟩, hscalar _ _ _⟩, List.all_eq_true.1 rfl⟩
  · simp only [List.forall_mem_append]
    exact ⟨⟨⟨⟨List.all_eq_true.1 rfl, hscalar _ _ _⟩, List.all_eq_true.1 rfl⟩, hscalar _ _ _⟩,
      List.all_eq_true.1 rfl⟩

/-- A listing is read as the entries of its map, and every key and value as text. -/
theorem read?_mapping (properties : OrderedMap String String)
    (h : ∀ e ∈ properties.entries, isKey e.1) :
    read? (mapping properties) = some (properties.entries.map fun e => (.ofText e.1, .ofText e.2)) := by
  unfold mapping
  cases hentries : properties.entries with
  | nil => decide +kernel
  | cons e rest =>
    have hread := entries?_entriesText (hentries ▸ h)
    -- Neither an empty text nor a pair of braces is read as entries.
    have hne : items (entriesText (e :: rest)) ≠ [] := by
      intro hlines
      rw [hlines] at hread
      cases hread
    have hbraces : items (entriesText (e :: rest)) ≠ [['\x7b', '\x7d']] := by
      intro hlines
      rw [hlines] at hread
      cases hread
    have hreadable : (entriesText (e :: rest)).all isReadable := by
      rw [List.all_eq_true]
      intro c hc
      obtain ⟨e, _, hc⟩ := List.mem_flatMap.1 hc
      exact isReadable_of_mem_entry _ _ c hc
    change read? (String.ofList (entriesText (e :: rest))) = _
    rw [read?, String.toList_ofList]
    simp [hne, hbraces, hreadable, hread]

end Mapping

end PropertyFiles.Listing.Yaml
