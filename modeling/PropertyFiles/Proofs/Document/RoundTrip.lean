import PropertyFiles.Proofs.Document.Reading
/-!
# Reading back what was written

A document is the lines of its header and, for each property, the lines of its comment and one line
of its own. Headers and comments say nothing, so a document that may be written reads back as its
entries in their order. An undefined value comes back as the text that was written for it; a value that
cannot be encoded does not come back, nor does any entry behind it.
-/
namespace PropertyFiles

open Text

namespace Line

/-- A text that is one line and says nothing. -/
structure IsRemark (text : String) : Prop where
  unbroken : ∀ c ∈ text.toList, isBreak c = false
  ignored : read text = .ignored

private theorem isRemark_of_head {cs : List Char} (hbreak : cs.all fun c => !isBreak c)
    (hhead : cs.head?.all (· == '#')) : IsRemark (String.ofList cs) := by
  have hnone : ∀ c ∈ cs, isBreak c = false := by simpa using hbreak
  have hblank : ∀ c ∈ cs.head?, isBlank c = false := by
    intro c hc
    rw [Option.mem_def] at hc
    obtain rfl : c = '#' := by simpa [hc] using hhead
    rfl
  refine ⟨by simpa using hnone, ?_⟩
  rw [read, String.toList_ofList, ofChars, content, dropTrailing_eq_self hnone,
    trimStart_eq_self_iff.2 hblank]
  cases cs with
  | nil => rfl
  | cons c rest =>
    obtain rfl : c = '#' := by simpa using hhead
    rfl

end Line

-- The fixed texts are taken apart by unification, which is far cheaper than evaluating them.
private theorem Kind.isRemark_headerLines (kind : Kind) :
    ∀ line ∈ kind.headerLines, Line.IsRemark line := by
  cases kind <;>
    simp only [headerLines, List.forall_mem_cons, List.not_mem_nil, false_implies, implies_true,
      and_true] <;>
    and_intros <;> exact Line.isRemark_of_head rfl rfl

private theorem WellKnown.isRemark_commentLines :
    ∀ comment ∈ commentLines, ∀ line ∈ comment.2, Line.IsRemark line := by
  simp only [commentLines, List.forall_mem_cons, List.not_mem_nil, false_implies, implies_true,
    and_true]
  and_intros <;> exact Line.isRemark_of_head rfl rfl

namespace RawText

/-- Whether a text can be the value of a line: no break in it and no blank in front. -/
def IsValue (raw : RawText) : Prop :=
  raw.points.any CodePoint.isBreak = false ∧ raw.points.head?.any CodePoint.isBlank = false

instance (raw : RawText) : Decidable raw.IsValue :=
  inferInstanceAs (Decidable (_ ∧ _))

theorem isValue_ofString_iff {text : String} : (ofString text).IsValue ↔ Line.IsValue text := by
  have hbreak : (text.toList.map CodePoint.char).any CodePoint.isBreak =
      text.toList.any isBreak := List.any_map
  have hblank : (text.toList.map CodePoint.char).head?.any CodePoint.isBlank =
      text.toList.head?.any isBlank := by
    cases text.toList <;> rfl
  rw [IsValue, ofString, hbreak, hblank, Line.IsValue]
  cases text.toList.head? <;> simp

end RawText

namespace Document

def entryLines (key value : String) : List String :=
  (WellKnown.commentLines.lookup key).getD [] ++ [key ++ "=" ++ value]

private theorem commentText_eq_unlines (key : String) :
    commentText key = unlines ((WellKnown.commentLines.lookup key).getD []) := by
  unfold commentText WellKnown.comment?
  cases WellKnown.commentLines.lookup key with
  | none => simp [unlines]
  | some texts => rfl

private theorem entryText_eq_unlines (key value : String) :
    commentText key ++ entryLine key value = unlines (entryLines key value) := by
  rw [entryLines, unlines_append, commentText_eq_unlines, entryLine]
  simp [unlines]

private theorem isValue_undefinedText : Line.IsValue undefinedText := by
  decide

private theorem isValue_of_written? {value : Option RawText} {text : String}
    (h : written? value = some text) (hvalue : ∀ raw ∈ value, raw.IsValue) : Line.IsValue text := by
  cases value with
  | none =>
    obtain rfl := Option.some.inj h
    exact isValue_undefinedText
  | some raw =>
    obtain rfl := RawText.text?_eq_some_iff.1 h
    exact RawText.isValue_ofString_iff.1 (hvalue _ rfl)

theorem entryFault?_eq_none_iff {key : String} {value : Option RawText} :
    entryFault? key value = none ↔ isKey key ∧ ∀ raw ∈ value, raw.IsValue := by
  unfold entryFault?
  by_cases hkey : isKey key
  · cases value with
    | none => simp [hkey]
    | some raw =>
      simp only [hkey, Bool.not_true, Bool.false_eq_true, if_false, true_and, Option.mem_some_iff,
        forall_eq', RawText.IsValue]
      cases raw.points.any CodePoint.isBreak with
      | true => simp
      | false => cases raw.points.head?.any CodePoint.isBlank <;> simp
  · simp [hkey]

/-- A document may be written exactly if each entry makes a line that could be read. -/
theorem fault?_eq_none_iff {properties : Properties} :
    fault? properties = none ↔
      ∀ e ∈ properties.entries, isKey e.1 ∧ ∀ raw ∈ e.2, raw.IsValue := by
  simp only [fault?, List.findSome?_eq_none_iff, Option.map_eq_none_iff, entryFault?_eq_none_iff]

/-- The entries whose lines are written: those in front of the first value that cannot be encoded. -/
def keptEntries : List (String × Option RawText) → List (String × String)
  | [] => []
  | (key, value) :: rest =>
    match written? value with
    | some text => (key, text) :: keptEntries rest
    | none => []

private theorem keptEntries_keys_front (entries : List (String × Option RawText)) :
    (keptEntries entries).map Prod.fst <+: entries.map Prod.fst := by
  induction entries with
  | nil => exact List.prefix_rfl
  | cons e rest ih =>
    rw [keptEntries]
    split
    · exact List.cons_prefix_cons.2 ⟨rfl, ih⟩
    · exact List.nil_prefix

/-- What a document holds once it is written. -/
def kept (properties : Properties) : OrderedMap String String :=
  ⟨keptEntries properties.entries,
    (keptEntries_keys_front properties.entries).sublist.nodup properties.nodup⟩

theorem unencodableLine?_eq_none_iff {key : String} {value : Option RawText} :
    unencodableLine? key value = none ↔ (written? value).isSome := by
  rw [unencodableLine?]
  cases value with
  | none => simp [written?]
  | some raw => cases written? (some raw) <;> simp

/-- Nothing keeps a document from being written as a whole. -/
theorem unencodable?_eq_none_iff {properties : Properties} :
    unencodable? properties = none ↔ ∀ e ∈ properties.entries, (written? e.2).isSome := by
  simp only [unencodable?, List.findSome?_eq_none_iff, unencodableLine?_eq_none_iff]

theorem keptEntries_of_isSome {entries : List (String × Option RawText)}
    (h : ∀ e ∈ entries, (written? e.2).isSome) :
    keptEntries entries = entries.map fun e => (e.1, (written? e.2).getD undefinedText) := by
  induction entries with
  | nil => rfl
  | cons e rest ih =>
    obtain ⟨text, htext⟩ := Option.isSome_iff_exists.1 (h e List.mem_cons_self)
    rw [keptEntries, List.map_cons, ← ih fun other hother => h other (List.mem_cons_of_mem e hother)]
    simp only [htext, Option.getD_some]

theorem kept_eq {properties : Properties} (h : unencodable? properties = none) :
    kept properties = properties.mapValues fun value => (written? value).getD undefinedText :=
  OrderedMap.ext (keptEntries_of_isSome (unencodable?_eq_none_iff.1 h))

theorem unencodable?_raw (properties : OrderedMap String String) :
    unencodable? (properties.raw.mapValues some) = none := by
  rw [unencodable?_eq_none_iff]
  intro e he
  obtain ⟨_, hmem, rfl⟩ := List.mem_map.1 he
  obtain ⟨entry, _, rfl⟩ := List.mem_map.1 hmem
  rw [written?, RawText.text?_ofString]
  rfl

/-- The lines of a document as the reader sees them. -/
def Readable (texts : List String) (entries : List (String × String)) : Prop :=
  (∀ text ∈ texts, ∀ c ∈ text.toList, isBreak c = false) ∧
    ∀ number, definitions number (texts.map String.toList) = .ok entries

theorem Readable.append {texts more : List String} {entries others : List (String × String)}
    (h : Readable texts entries) (h' : Readable more others) :
    Readable (texts ++ more) (entries ++ others) := by
  refine ⟨fun text ht => (List.mem_append.1 ht).elim (h.1 text) (h'.1 text), fun number => ?_⟩
  obtain ⟨hgood, rfl⟩ := definitions_eq_ok_iff.1 (h.2 number)
  obtain ⟨hgood', rfl⟩ := definitions_eq_ok_iff.1 (h'.2 number)
  rw [List.map_append, definitions_eq_ok_iff, List.filterMap_append]
  exact ⟨fun line hl => (List.mem_append.1 hl).elim (hgood line) (hgood' line), rfl⟩

theorem readable_remarks {texts : List String} (h : ∀ text ∈ texts, Line.IsRemark text) :
    Readable texts [] := by
  refine ⟨fun text ht => (h text ht).unbroken, fun number => definitions_eq_ok_iff.2 ⟨?_, ?_⟩⟩
  · intro line hline message
    obtain ⟨text, ht, rfl⟩ := List.mem_map.1 hline
    rw [show Line.ofChars text.toList = .ignored from (h text ht).ignored]
    simp
  · rw [eq_comm, List.filterMap_eq_nil_iff]
    intro line hline
    obtain ⟨text, ht, rfl⟩ := List.mem_map.1 hline
    rw [show Line.ofChars text.toList = .ignored from (h text ht).ignored]
    rfl

private theorem readable_comment (key : String) :
    Readable ((WellKnown.commentLines.lookup key).getD []) [] := by
  apply readable_remarks
  cases hlookup : WellKnown.commentLines.lookup key with
  | none => simp
  | some texts =>
    obtain ⟨before, after, hsplit, _⟩ := List.lookup_eq_some_iff.1 hlookup
    exact WellKnown.isRemark_commentLines (key, texts) (by simp [hsplit])

private theorem readable_entryLines {key value : String} (hkey : isKey key) (hvalue : Line.IsValue value) :
    Readable (entryLines key value) [(key, value)] := by
  refine (readable_comment key).append ⟨?_, fun number => ?_⟩
  · intro text ht
    obtain rfl := List.mem_singleton.1 ht
    exact Line.isBreak_of_mem_key_value hkey hvalue
  · rw [List.map_singleton, definitions, Line.ofChars_key_value hkey hvalue]
    rfl

/-- The text of entries is made of lines, also where it ends early, behind a comment. -/
private theorem exists_readable_entriesText {entries : List (String × Option RawText)}
    (h : ∀ e ∈ entries, isKey e.1 ∧ ∀ raw ∈ e.2, raw.IsValue) :
    ∃ texts, entriesText entries = unlines texts ∧ Readable texts (keptEntries entries) := by
  induction entries with
  | nil => exact ⟨[], rfl, readable_remarks (by simp)⟩
  | cons e rest ih =>
    obtain ⟨key, value⟩ := e
    obtain ⟨hkey, hvalue⟩ := h _ List.mem_cons_self
    rw [entriesText, keptEntries]
    cases hwritten : written? value with
    | none =>
      exact ⟨(WellKnown.commentLines.lookup key).getD [], commentText_eq_unlines key,
        readable_comment key⟩
    | some text =>
      obtain ⟨texts, htexts, hread⟩ := ih fun other hother => h other (List.mem_cons_of_mem _ hother)
      refine ⟨entryLines key text ++ texts, ?_,
        (readable_entryLines hkey (isValue_of_written? hwritten hvalue)).append hread⟩
      rw [unlines_append, ← entryText_eq_unlines, ← htexts]

/-- A document that may be written reads back as the entries that were written. -/
theorem read_render {kind : Kind} {properties : Properties}
    (h : fault? properties = none) : read (render kind properties) = .ok (kept properties) := by
  obtain ⟨texts, htexts, hreadable⟩ := exists_readable_entriesText (fault?_eq_none_iff.1 h)
  obtain ⟨hbreak, hread⟩ := (readable_remarks kind.isRemark_headerLines).append hreadable
  rw [read, render, htexts, Kind.header, ← unlines_append, lines_unlines _ hbreak, hread 1]
  change Except.ok (OrderedMap.ofList (kept properties).entries) = _
  rw [OrderedMap.ofList_entries]

/-- What was read may be written. -/
theorem fault?_of_read {text : String} {properties : OrderedMap String String}
    (h : read text = .ok properties) : fault? (properties.raw.mapValues some) = none := by
  rw [fault?_eq_none_iff]
  intro e he
  obtain ⟨_, hmem, rfl⟩ := List.mem_map.1 he
  obtain ⟨entry, hentry, rfl⟩ := List.mem_map.1 hmem
  obtain ⟨hkey, hvalue⟩ := isKey_isValue_of_read h hentry
  refine ⟨hkey, ?_⟩
  rintro raw ⟨⟩
  exact RawText.isValue_ofString_iff.2 hvalue

end Document
end PropertyFiles
