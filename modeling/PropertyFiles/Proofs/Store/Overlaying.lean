import PropertyFiles.Proofs.Store.Reconfiguring
/-!
# A loaded store with other files merged

A store that was loaded, and into which the files of other kinds were merged, holds what all these files
define, one after another: each key where it is defined first, with the value that the first file with the
key gives it. Every property has a value, and one that a line can hold.
-/
namespace PropertyFiles

private theorem Document.foldl_definedKeys (definitions : Kind → List (String × String))
    (kinds : List Kind) (before : List (String × String)) :
    kinds.foldl (fun keys kind => keys ++ (definedKeys (definitions kind)).filter (· ∉ keys))
      (definedKeys before) = definedKeys (before ++ kinds.flatMap definitions) := by
  -- Each step takes the definitions of one more file to those before.
  induction kinds generalizing before with
  | nil => rw [List.foldl_nil, List.flatMap_nil, List.append_nil]
  | cons kind rest ih =>
    have hstep : definedKeys before ++
        (definedKeys (definitions kind)).filter (· ∉ definedKeys before) =
          definedKeys (before ++ definitions kind) := by
      rw [definedKeys, definedKeys, definedKeys, List.map_append, OrderedMap.eraseDups_append_eq]
    rw [List.foldl_cons, hstep, ih, List.flatMap_cons, List.append_assoc]

/-- Values that are texts are shown as they are. -/
theorem OrderedMap.raw_mapValues_shown {m : OrderedMap String RawText}
    (h : ∀ e ∈ m.entries, ∃ text : String, e.2 = ↑text) : (m.mapValues RawText.shown).raw = m := by
  rw [raw, mapValues_mapValues]
  refine OrderedMap.ext ((List.map_congr_left fun e he => ?_).trans (List.map_id _))
  obtain ⟨text, htext⟩ := h e he
  rw [Function.comp_apply, htext, RawText.shown_ofString, ← htext]
  rfl

namespace Store

/-- Every property has a value that a line can hold. -/
def IsLegible (store : Store) : Prop :=
  ∀ e ∈ store.properties.entries, ∃ value : String, e.2 = some ↑value ∧ isKey e.1 ∧ Line.IsValue value

section Overlaying
variable {tree : FileTree} {store : Store} {folder : String} {kind : Kind}

theorem isLegible_of_load (h : (load tree folder kind).1 = some store) : store.IsLegible := by
  obtain ⟨properties, hload, rfl⟩ := load_eq_some_iff.1 h
  intro e he
  obtain ⟨_, hmem, rfl⟩ := List.mem_map.1 he
  obtain ⟨entry, hentry, rfl⟩ := List.mem_map.1 hmem
  exact ⟨entry.2, rfl, FileTree.isKey_isValue_of_loadProject hload hentry⟩

theorem IsLegible.merge (h : store.IsLegible) (tree : FileTree) (kind : Kind) :
    (store.merge tree kind).1.IsLegible := by
  intro e he
  rcases mem_entries_merge he with he | ⟨properties, entry, hentry, hload, rfl⟩
  · exact h e he
  · exact ⟨entry.2, rfl, FileTree.isKey_isValue_of_loadProject hload hentry⟩

theorem IsLegible.mergeAll (h : store.IsLegible) (tree : FileTree) (kinds : List Kind) :
    (store.mergeAll tree kinds).IsLegible := by
  induction kinds generalizing store with
  | nil => exact h
  | cons kind rest ih => exact ih (h.merge tree kind)

variable (h : (load tree folder kind).1 = some store) (kinds : List Kind)
include h

theorem keys_mergeAll_of_load : (store.mergeAll tree kinds).properties.keys =
    Document.definedKeys ((kind :: kinds).flatMap (tree.definitions folder)) := by
  obtain ⟨properties, hload, rfl⟩ := load_eq_some_iff.1 h
  have hkeys : (properties.raw.mapValues some).keys =
      Document.definedKeys (tree.definitions folder kind) := by
    rw [OrderedMap.keys_mapValues, OrderedMap.raw, OrderedMap.keys_mapValues,
      FileTree.eq_ofList_definitions hload, OrderedMap.keys_ofList]
    rfl
  rw [keys_mergeAll, hkeys, Document.foldl_definedKeys, List.flatMap_cons]

theorem get?_mergeAll_of_load (key : String) : (store.mergeAll tree kinds).get? key =
    ((kind :: kinds).findSome? fun kind =>
      Document.lastValue? (tree.definitions folder kind) key).map RawText.ofString := by
  obtain ⟨properties, hload, rfl⟩ := load_eq_some_iff.1 h
  have hown : (⟨folder, kind, properties.raw.mapValues some⟩ : Store).get? key =
      (Document.lastValue? (tree.definitions folder kind) key).map RawText.ofString := by
    rw [get?, OrderedMap.value?_mapValues_some, OrderedMap.raw, OrderedMap.get?_mapValues,
      FileTree.eq_ofList_definitions hload, OrderedMap.get?_ofList]
    rfl
  rw [get?_mergeAll, hown, List.findSome?_cons]
  cases Document.lastValue? (tree.definitions folder kind) key <;> rfl

end Overlaying

/-- What a store is shown as: its defined properties, each value as text. -/
def texts (store : Store) : OrderedMap String String :=
  store.properties.defined.mapValues RawText.shown

theorem get?_texts (store : Store) (key : String) :
    store.texts.get? key = (store.get? key).map RawText.shown := by
  rw [texts, OrderedMap.get?_mapValues, OrderedMap.get?_defined]
  rfl

section Legible
variable {store : Store} (h : store.IsLegible)
include h

private theorem IsLegible.exists_text {key : String} {value : RawText}
    (hget : store.get? key = some value) : ∃ text : String, value = ↑text := by
  obtain ⟨text, htext, _⟩ := h _ (OrderedMap.value?_eq_some_iff.1 hget)
  exact ⟨text, Option.some.inj htext⟩

/-- In a legible store the values are texts, so that it is shown as it is. -/
theorem IsLegible.raw_texts : store.texts.raw = store.properties.defined := by
  apply OrderedMap.raw_mapValues_shown
  intro e he
  rw [← OrderedMap.get?_eq_some_iff, OrderedMap.get?_defined] at he
  exact h.exists_text he

theorem IsLegible.raw_configurations :
    (store.configurations.mapValues RawText.shown).raw = store.configurations := by
  apply OrderedMap.raw_mapValues_shown
  intro e he
  rw [← OrderedMap.get?_eq_some_iff, get?_configurations] at he
  split at he
  · exact h.exists_text he
  · cases he

theorem IsLegible.keys_texts : store.texts.keys = store.properties.keys := by
  rw [texts, OrderedMap.keys_mapValues]
  apply OrderedMap.keys_defined_of_isSome
  intro e he
  obtain ⟨value, hvalue, _⟩ := h e he
  rw [hvalue]
  rfl

theorem IsLegible.isKey_isValue {e : String × String} (he : e ∈ store.texts.entries) :
    isKey e.1 ∧ Line.IsValue e.2 := by
  obtain ⟨⟨key, raw⟩, hraw, rfl⟩ := List.mem_map.1 he
  obtain ⟨value, hvalue, hkey, hline⟩ := h _ (OrderedMap.mem_entries_defined.1 hraw)
  obtain rfl := Option.some.inj hvalue
  rw [RawText.shown_ofString]
  exact ⟨hkey, hline⟩

end Legible

end Store
end PropertyFiles
