import PropertyFiles.Listing.Plain
import PropertyFiles.Proofs.Document.RoundTrip
import PropertyFiles.Proofs.Line.Grammar
/-!
# Reading plain listings

Nothing is escaped in a plain listing, and control sequences are left out of it. It reads as its entries
nevertheless: each key comes with its value as far as that is shown, without control sequences and without
the blanks that stand in front then.
-/
namespace PropertyFiles

open Text

namespace Text

private theorem withoutControls_append {front : List Char} (h : '\x1b' ∉ front) (rest : List Char) :
    withoutControls (front ++ rest) = front ++ withoutControls rest := by
  induction front with
  | nil => rfl
  | cons c front ih =>
    rw [List.mem_cons, not_or] at h
    rw [List.cons_append, withoutControls, if_neg (Ne.symm h.1), ih h.2, List.cons_append]

private theorem subset_of_afterControl? {cs after : List Char} (h : afterControl? cs = some after) :
    after ⊆ cs := by
  unfold afterControl? at h
  split at h
  · rename_i rest
    have hsubset := List.dropWhile_subset (l := rest) isControlParameter
    split at h
    · cases h
    · rename_i last tail hdrop
      rw [hdrop] at hsubset
      split at h
      · obtain rfl := Option.some.inj h
        exact fun c hc => List.mem_cons_of_mem _ (hsubset (List.mem_cons_of_mem last hc))
      · cases h
  · cases h

private theorem withoutControls_subset (cs : List Char) : withoutControls cs ⊆ cs := by
  -- Nothing, a sequence that is left out, an escape character alone, and any other character.
  fun_induction withoutControls cs with
  | case1 => exact List.Subset.refl []
  | case2 rest after hafter ih =>
    exact fun c hc => List.mem_cons_of_mem _ (subset_of_afterControl? hafter (ih hc))
  | case3 rest hafter ih => exact List.cons_subset_cons _ ih
  | case4 c rest hc ih => exact List.cons_subset_cons c ih

end Text

namespace Listing

/-- A value as far as a plain listing shows it. -/
def visible (value : String) : String :=
  String.ofList (trimStart (withoutControls value.toList))

theorem visible_of_no_escape {value : String} (h : '\x1b' ∉ value.toList)
    (hvalue : Line.IsValue value) : visible value = value := by
  rw [visible, withoutControls_of_no_escape h, trimStart_eq_self_iff.2 hvalue.2,
    String.ofList_toList]

def entryLine (e : String × String) : String :=
  String.ofList (withoutControls (e.1 ++ "=" ++ e.2).toList)

private theorem plain_eq_unlines (properties : OrderedMap String String) :
    plain properties = unlines (properties.entries.map entryLine) := by
  rw [plain, unlines, List.map_map]
  rfl

private theorem entryLine_of_isKey {e : String × String} (h : isKey e.1) :
    (entryLine e).toList = e.1.toList ++ '=' :: withoutControls e.2.toList := by
  have hescape : '\x1b' ∉ e.1.toList ++ ['='] := by
    intro hmem
    rcases List.mem_append.1 hmem with hkey | hequals
    · exact absurd ((isKey_iff.1 h).2 _ hkey) (by decide)
    · revert hequals
      decide
  have htext : (e.1 ++ "=" ++ e.2).toList = (e.1.toList ++ ['=']) ++ e.2.toList := by simp
  rw [entryLine, String.toList_ofList, htext, withoutControls_append hescape, List.append_assoc]
  rfl

private theorem defines_entryLine {e : String × String} (hkey : isKey e.1) (hvalue : Line.IsValue e.2) :
    Line.Defines (entryLine e).toList e.1 (visible e.2) := by
  obtain ⟨hne, hchars⟩ := isKey_iff.1 hkey
  refine ⟨[], [], (withoutControls e.2.toList).takeWhile isBlank, (entryLine e).toList, rfl, nofun,
    ?_, hne, hchars, nofun, fun c hc => List.mem_takeWhile_imp hc, ?_, ?_⟩
  · rw [entryLine_of_isKey hkey, visible, String.toList_ofList, trimStart,
      List.takeWhile_append_dropWhile, List.nil_append]
  · rw [visible, String.toList_ofList]
    intro hfeed
    have hmem := withoutControls_subset _ (List.dropWhile_subset isBlank hfeed)
    exact absurd (hvalue.1 _ hmem) (by decide)
  · rw [visible, String.toList_ofList]
    exact trimStart_eq_self_iff.1 (trimStart_trimStart _)

private theorem isBreak_of_mem_entryLine {e : String × String} (hkey : isKey e.1)
    (hvalue : Line.IsValue e.2) : ∀ c ∈ (entryLine e).toList, isBreak c = false := by
  intro c hc
  rw [entryLine, String.toList_ofList] at hc
  exact Line.isBreak_of_mem_key_value hkey hvalue c (withoutControls_subset _ hc)

private theorem readable_entryLine {e : String × String} (hkey : isKey e.1) (hvalue : Line.IsValue e.2) :
    Document.Readable [entryLine e] [(e.1, visible e.2)] := by
  have hbreak := isBreak_of_mem_entryLine hkey hvalue
  refine ⟨List.forall_mem_singleton.2 hbreak, fun number => ?_⟩
  rw [List.map_singleton, Document.definitions,
    (Line.ofChars_eq_property_iff hbreak).2 (defines_entryLine hkey hvalue)]
  rfl

private theorem readable_entries {entries : List (String × String)}
    (h : ∀ e ∈ entries, isKey e.1 ∧ Line.IsValue e.2) :
    Document.Readable (entries.map entryLine) (entries.map fun e => (e.1, visible e.2)) := by
  induction entries with
  | nil => exact Document.readable_remarks nofun
  | cons e rest ih =>
    obtain ⟨⟨hkey, hvalue⟩, hrest⟩ := List.forall_mem_cons.1 h
    exact (readable_entryLine hkey hvalue).append (ih hrest)

/-- A plain listing reads as its entries, with their values as they are shown. -/
theorem read_plain {properties : OrderedMap String String}
    (h : ∀ e ∈ properties.entries, isKey e.1 ∧ Line.IsValue e.2) :
    Document.read (plain properties) = .ok (properties.mapValues visible) := by
  obtain ⟨hbreak, hread⟩ := readable_entries h
  rw [Document.read, plain_eq_unlines, lines_unlines _ hbreak, hread 1]
  change Except.ok (OrderedMap.ofList (properties.mapValues visible).entries) = _
  rw [OrderedMap.ofList_entries]

end Listing
end PropertyFiles
