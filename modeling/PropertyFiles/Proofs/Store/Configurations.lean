import Mathlib.Data.List.Nodup
import PropertyFiles.Proofs.Store.RoundTrip
/-!
# Configurations of a store

The names of configurations are valid parts of keys, so the list that joins them is read back as
these names. Setting configurations gives each of them its key, takes away the keys of the names that
were listed before, and changes no other property; what was set is what is found, also in a store
that was saved and loaded.
-/
namespace PropertyFiles

private theorem Text.trim_of_isKey {name : String} (h : isKey name) : trim name.toList = name.toList := by
  have hblank : ∀ c ∈ name.toList, isBlank c = false := by
    intro c hc
    exact (isBlank_of_isKeyChar ((isKey_iff.1 h).2 c hc)).1
  have hstart : trimStart name.toList = name.toList := by
    apply trimStart_eq_self_iff.2
    intro c hc
    exact hblank c (List.mem_of_mem_head? hc)
  rw [trim, hstart, dropTrailing_eq_self hblank]

theorem toList_ne_nil_of_mem_configurationNames {list : RawText} {name : String}
    (h : name ∈ configurationNames list) : name.toList ≠ [] := by
  obtain ⟨cs, hcs, rfl⟩ := List.mem_map.1 h
  rw [String.toList_ofList]
  exact of_decide_eq_true (List.mem_filter.1 hcs).2

private theorem comma_not_mem_of_isKey {name : String} (h : isKey name) : ',' ∉ name.toList := by
  intro hcomma
  exact absurd ((isKey_iff.1 h).2 _ hcomma) (by decide)

private theorem splitOn_map_char (cs : List Char) :
    (cs.map CodePoint.char).splitOn (.char ',') =
      (cs.splitOn ',').map fun part => part.map CodePoint.char := by
  induction cs with
  | nil => rfl
  | cons c rest ih =>
    rw [List.map_cons, List.splitOn_cons_eq_if_modifyHead, List.splitOn_cons_eq_if_modifyHead, ih]
    by_cases hcomma : c = ','
    · subst hcomma
      rfl
    · rw [if_neg (by simpa using hcomma), if_neg (by simpa using hcomma)]
      cases rest.splitOn ',' <;> rfl

private theorem configurationNames_ofString (list : String) :
    configurationNames list =
      (((list.toList.splitOn ',').map Text.trim).filter (· ≠ [])).map String.ofList := by
  have hchars : ((list.toList.splitOn ',').map fun part => part.map CodePoint.char).filterMap
      CodePoint.chars? = list.toList.splitOn ',' := by
    rw [List.filterMap_map]
    refine (List.filterMap_congr fun part _ => ?_).trans List.filterMap_some
    exact CodePoint.chars?_map_char part
  rw [configurationNames, RawText.ofString, splitOn_map_char, hchars]

/-- Names that may be part of a key are read back from the list that joins them. -/
private theorem configurationNames_intercalate {names : List String} (h : ∀ name ∈ names, isKey name) :
    configurationNames (",".intercalate names) = names := by
  by_cases hnil : names = []
  · subst hnil
    rfl
  · have hsplit : (",".intercalate names).toList.splitOn ',' = names.map String.toList := by
      have hcomma : ∀ cs ∈ names.map String.toList, ',' ∉ cs := by
        intro cs hcs
        obtain ⟨name, hname, rfl⟩ := List.mem_map.1 hcs
        exact comma_not_mem_of_isKey (h name hname)
      rw [String.toList_intercalate]
      exact List.splitOn_intercalate ',' hcomma (by simpa using hnil)
    have htrim : (names.map String.toList).map Text.trim = names.map String.toList := by
      rw [List.map_map]
      apply List.map_congr_left
      intro name hname
      exact Text.trim_of_isKey (h name hname)
    have hfilter : (names.map String.toList).filter (· ≠ []) = names.map String.toList := by
      apply List.filter_eq_self.2
      intro cs hcs
      obtain ⟨name, hname, rfl⟩ := List.mem_map.1 hcs
      exact decide_eq_true (isKey_iff.1 (h name hname)).1
    rw [configurationNames_ofString, hsplit, htrim, hfilter, List.map_map]
    exact (List.map_congr_left fun name _ => String.ofList_toList).trans (List.map_id _)

namespace WellKnown

theorem configurationKey_injective : Function.Injective configurationKey := by
  intro name other h
  have hlist := congrArg String.toList h
  rw [configurationKey, configurationKey, String.toList_append, String.toList_append] at hlist
  exact String.toList_inj.1 (List.append_cancel_left hlist)

theorem configurationKey_ne_configurations (name : String) :
    configurationKey name ≠ configurations := by
  intro h
  have hlist := congrArg String.toList h
  simp [configurationKey, configurationLeading, configurations] at hlist

theorem isKey_configurationKey_iff {name : String} :
    isKey (configurationKey name) ↔ ∀ c ∈ name.toList, isKeyChar c := by
  have hleading : isKey configurationLeading := by decide
  have hne : (configurationKey name).toList ≠ [] := by
    simp [configurationKey, configurationLeading]
  rw [isKey_iff, and_iff_right hne, configurationKey, String.toList_append, List.forall_mem_append,
    and_iff_right (isKey_iff.1 hleading).2]

/-- The list of configurations, or a key that begins like those of configurations. -/
def IsOfConfigurations (key : String) : Prop :=
  key = configurations ∨ configurationLeading.toList <+: key.toList

instance (key : String) : Decidable (IsOfConfigurations key) :=
  inferInstanceAs (Decidable (_ ∨ _))

private theorem isOfConfigurations_configurationKey (name : String) :
    IsOfConfigurations (configurationKey name) := by
  right
  rw [configurationKey, String.toList_append]
  exact List.prefix_append _ _

end WellKnown

open WellKnown

namespace Store

/-- The properties of the configurations themselves. -/
def keyed (configurations : Properties) : List (String × Option RawText) :=
  configurations.entries.map fun e => (configurationKey e.1, e.2)

theorem map_fst_keyed (configurations : Properties) :
    (keyed configurations).map Prod.fst = configurations.keys.map configurationKey := by
  rw [keyed, OrderedMap.keys, List.map_map, List.map_map]
  rfl

theorem nodup_keyed (configurations : Properties) :
    ((keyed configurations).map Prod.fst).Nodup := by
  rw [map_fst_keyed]
  exact configurations.nodup_keys.map configurationKey_injective

theorem configurationKey_mem_map_iff {names : List String} {name : String} :
    configurationKey name ∈ names.map configurationKey ↔ name ∈ names :=
  List.mem_map_of_injective configurationKey_injective

theorem not_mem_map_configurationKey {key : String} (h : ∀ name, key ≠ configurationKey name)
    (names : List String) : key ∉ names.map configurationKey := by
  intro hmem
  obtain ⟨name, _, hkey⟩ := List.mem_map.1 hmem
  exact h name hkey.symm

section Setting
variable (store : Store) (configurations : Properties)

/-- The properties without those of the listed configurations. -/
def cleared : Properties :=
  store.properties.filterKeys (· ∉ store.configurationNames.map configurationKey)

/-- The cleared properties with the list that is to be, or without one. -/
def listed : Properties :=
  if configurations.entries = [] then store.cleared.erase WellKnown.configurations
  else store.cleared.insert WellKnown.configurations (some ↑(",".intercalate configurations.keys))

private theorem foldl_remove (names : List String) :
    names.foldl (fun store name => store.remove (configurationKey name)) store = { store with
      properties := store.properties.filterKeys (· ∉ names.map configurationKey) } := by
  rw [← OrderedMap.foldl_erase]
  induction names generalizing store with
  | nil => rfl
  | cons name rest ih => exact ih (store.remove (configurationKey name))

private theorem foldl_set (entries : List (String × Option RawText)) :
    entries.foldl (fun store e => store.set (configurationKey e.1) e.2) store = { store with
      properties := store.properties.insertAll
        (entries.map fun e => (configurationKey e.1, e.2)) } := by
  induction entries generalizing store with
  | nil => rfl
  | cons e rest ih => exact ih (store.set (configurationKey e.1) e.2)

theorem withConfigurations_eq :
    store.withConfigurations configurations = { store with
      properties := (store.listed configurations).insertAll (keyed configurations) } := by
  rw [withConfigurations, foldl_remove, listed, keyed]
  by_cases hempty : configurations.entries = []
  · simp only [hempty]
    rfl
  · simp only [if_neg hempty]
    exact foldl_set _ _

@[simp] theorem folder_withConfigurations :
    (store.withConfigurations configurations).folder = store.folder := by
  rw [withConfigurations_eq]

@[simp] theorem kind_withConfigurations :
    (store.withConfigurations configurations).kind = store.kind := by
  rw [withConfigurations_eq]

theorem get?_listed_of_ne {key : String} (h : key ≠ WellKnown.configurations) :
    (store.listed configurations).get? key = store.cleared.get? key := by
  rw [listed]
  by_cases hempty : configurations.entries = []
  · rw [if_pos hempty, OrderedMap.get?_erase, if_neg h]
  · rw [if_neg hempty, OrderedMap.get?_insert_of_ne _ _ h]

/-- The property of a configuration: as it was set, else gone if it was listed, else untouched. -/
theorem get?_withConfigurations_configurationKey (name : String) :
    (store.withConfigurations configurations).properties.get? (configurationKey name) =
      (configurations.get? name).or (if name ∈ store.configurationNames then none
        else store.properties.get? (configurationKey name)) := by
  rw [withConfigurations_eq]
  cases hget : configurations.get? name with
  | some value =>
    have hmem : (configurationKey name, value) ∈ keyed configurations :=
      List.mem_map_of_mem (OrderedMap.get?_eq_some_iff.1 hget)
    rw [OrderedMap.get?_insertAll_of_mem _ (nodup_keyed configurations) hmem, Option.some_or]
  | none =>
    have hmem : configurationKey name ∉ (keyed configurations).map Prod.fst := by
      rw [map_fst_keyed, configurationKey_mem_map_iff]
      exact OrderedMap.get?_eq_none_iff.1 hget
    rw [OrderedMap.get?_insertAll_of_not_mem _ hmem,
      get?_listed_of_ne _ _ (configurationKey_ne_configurations name), cleared,
      OrderedMap.get?_filterKeys, Option.none_or]
    by_cases hname : name ∈ store.configurationNames <;>
      simp [configurationKey_mem_map_iff, hname]

theorem get?_withConfigurations_configurations :
    (store.withConfigurations configurations).properties.get? WellKnown.configurations =
      if configurations.entries = [] then none
      else some (some ↑(",".intercalate configurations.keys)) := by
  have hnot : ∀ name, WellKnown.configurations ≠ configurationKey name := by
    intro name h
    exact configurationKey_ne_configurations name h.symm
  have hmem : WellKnown.configurations ∉ (keyed configurations).map Prod.fst := by
    rw [map_fst_keyed]
    exact not_mem_map_configurationKey hnot configurations.keys
  rw [withConfigurations_eq, OrderedMap.get?_insertAll_of_not_mem _ hmem, listed]
  by_cases hempty : configurations.entries = []
  · rw [if_pos hempty, if_pos hempty, OrderedMap.get?_erase, if_pos rfl]
  · rw [if_neg hempty, if_neg hempty, OrderedMap.get?_insert_self]

/-- What is neither the list nor the key of a name that was listed or is set stays as it is. -/
theorem get?_withConfigurations_of_not_mem {key : String} (hlist : key ≠ WellKnown.configurations)
    (hold : key ∉ store.configurationNames.map configurationKey)
    (hnew : key ∉ configurations.keys.map configurationKey) :
    (store.withConfigurations configurations).properties.get? key = store.properties.get? key := by
  rw [← map_fst_keyed] at hnew
  rw [withConfigurations_eq, OrderedMap.get?_insertAll_of_not_mem _ hnew,
    get?_listed_of_ne _ _ hlist, cleared, OrderedMap.get?_filterKeys, if_pos (decide_eq_true hold)]

/-- A key that has nothing to do with configurations stays as it is. -/
theorem get?_withConfigurations_of_ne {key : String} (hlist : key ≠ WellKnown.configurations)
    (hname : ∀ name, key ≠ configurationKey name) :
    (store.withConfigurations configurations).properties.get? key = store.properties.get? key :=
  get?_withConfigurations_of_not_mem store configurations hlist
    (not_mem_map_configurationKey hname _) (not_mem_map_configurationKey hname _)

variable {store configurations} in
theorem mem_entries_withConfigurations {e : String × Option RawText}
    (h : e ∈ (store.withConfigurations configurations).properties.entries) :
    e ∈ store.properties.entries ∨
      e = (WellKnown.configurations, some ↑(",".intercalate configurations.keys)) ∨
      ∃ entry ∈ configurations.entries, e = (configurationKey entry.1, entry.2) := by
  have hlisted (he : e ∈ (store.listed configurations).entries) : e ∈ store.properties.entries ∨
      e = (WellKnown.configurations, some ↑(",".intercalate configurations.keys)) := by
    rw [listed] at he
    split at he
    · exact Or.inl (List.mem_of_mem_filter (List.mem_of_mem_filter he))
    · rcases OrderedMap.mem_entries_insert.1 he with rfl | ⟨he, _⟩
      · exact Or.inr rfl
      · exact Or.inl (List.mem_of_mem_filter he)
  rw [withConfigurations_eq] at h
  rcases OrderedMap.mem_entries_insertAll h with h | h
  · rcases hlisted h with h | h
    · exact Or.inl h
    · exact Or.inr (Or.inl h)
  · obtain ⟨entry, hentry, rfl⟩ := List.mem_map.1 h
    exact Or.inr (Or.inr ⟨entry, hentry, rfl⟩)

theorem configurationNames_withConfigurations (h : ∀ name ∈ configurations.keys, isKey name) :
    (store.withConfigurations configurations).configurationNames = configurations.keys := by
  rw [configurationNames, get?, OrderedMap.value?, get?_withConfigurations_configurations]
  by_cases hempty : configurations.entries = []
  · rw [if_pos hempty, OrderedMap.keys, hempty]
    rfl
  · rw [if_neg hempty]
    exact configurationNames_intercalate h

end Setting

theorem setConfigurations_eq_ok_iff {store after : Store} {configurations : Properties} :
    store.setConfigurations configurations = .ok after ↔
      (∀ name ∈ configurations.keys, isKey name) ∧
        after = store.withConfigurations configurations := by
  unfold setConfigurations
  cases hfind : configurations.keys.find? fun name => !isKey name with
  | none =>
    have hall : ∀ name ∈ configurations.keys, isKey name := by
      simpa using hfind
    constructor
    · intro h
      exact ⟨hall, (Except.ok.inj h).symm⟩
    · intro h
      rw [h.2]
  | some name =>
    have hname := List.find?_some hfind
    have hnot : ¬ ∀ name ∈ configurations.keys, isKey name := by
      intro hall
      rw [hall name (List.mem_of_find?_eq_some hfind)] at hname
      cases hname
    simp only [reduceCtorEq, hnot, false_and]

/-- Setting configurations and asking for them gives the same ones in the same order. -/
theorem configurations_withConfigurations (store : Store) {configurations : OrderedMap String RawText}
    (h : ∀ name ∈ configurations.keys, isKey name) :
    (store.withConfigurations (configurations.mapValues some)).configurations =
      configurations := by
  have hnames : (store.withConfigurations (configurations.mapValues some)).configurationNames =
      configurations.keys := by
    rw [configurationNames_withConfigurations, OrderedMap.keys_mapValues]
    rwa [OrderedMap.keys_mapValues]
  have hvalue : ∀ e ∈ configurations.entries,
      (store.withConfigurations (configurations.mapValues some)).get? (configurationKey e.1) =
        some e.2 := by
    intro e he
    have hget : configurations.get? e.1 = some e.2 := OrderedMap.get?_eq_some_iff.2 he
    rw [get?, OrderedMap.value?, get?_withConfigurations_configurationKey,
      OrderedMap.get?_mapValues, hget]
    rfl
  have hentries : (configurations.keys.filterMap fun name =>
      ((store.withConfigurations (configurations.mapValues some)).get?
        (configurationKey name)).map (name, ·)) = configurations.entries := by
    rw [OrderedMap.keys, List.filterMap_map]
    refine (List.filterMap_congr fun e he => ?_).trans List.filterMap_some
    rw [Function.comp_apply, hvalue e he]
    rfl
  rw [Store.configurations, hnames, hentries, OrderedMap.ofList_entries]

private theorem configurations_congr {store other : Store}
    (hlist : other.get? WellKnown.configurations = store.get? WellKnown.configurations)
    (hvalue : ∀ name ∈ store.configurationNames,
      other.get? (configurationKey name) = store.get? (configurationKey name)) :
    other.configurations = store.configurations := by
  have hnames : other.configurationNames = store.configurationNames := by
    rw [configurationNames, configurationNames, hlist]
  rw [configurations, configurations, hnames]
  congr 1
  apply List.filterMap_congr
  intro name hname
  rw [hvalue name hname]

theorem configurations_reloaded_withConfigurations (store : Store)
    {configurations : OrderedMap String RawText} (h : ∀ name ∈ configurations.keys, isKey name)
    (hwhole : Document.unencodable?
      (store.withConfigurations (configurations.mapValues some)).properties = none) :
    (store.withConfigurations (configurations.mapValues some)).reloaded.configurations =
      configurations := by
  refine (configurations_congr ?_ ?_).trans (configurations_withConfigurations store h)
  · apply (get?_reloaded_eq_iff hwhole).2
    rw [get?_withConfigurations_configurations]
    split <;> simp
  · intro name hname
    apply (get?_reloaded_eq_iff hwhole).2
    rw [configurationNames_withConfigurations, OrderedMap.keys_mapValues] at hname
    · obtain ⟨value, hvalue⟩ := Option.isSome_iff_exists.1 (OrderedMap.mem_keys_iff.1 hname)
      rw [get?_withConfigurations_configurationKey, OrderedMap.get?_mapValues, hvalue]
      simp
    · rwa [OrderedMap.keys_mapValues]

/-- The list and the properties of configurations agree: a configuration has a property exactly if it
is listed. The list itself, if it is there, has a value. -/
structure Consistent (store : Store) : Prop where
  agrees : ∀ name, store.contains (configurationKey name) ↔ name ∈ store.configurationNames
  defined : store.properties.get? WellKnown.configurations ≠ some none

theorem consistent_create (folder : String) (kind : Kind) : (create folder kind).Consistent := by
  constructor
  · intro name
    simp [contains, create, OrderedMap.keys_empty, configurationNames, get?, OrderedMap.value?]
  · simp [create]

theorem contains_iff {store : Store} {key : String} :
    store.contains key ↔ (store.properties.get? key).isSome := by
  rw [contains, OrderedMap.contains_iff, OrderedMap.mem_keys_iff]

/-- Only the list and the properties of configurations matter. -/
theorem Consistent.congr {store other : Store} (h : store.Consistent)
    (hsame : ∀ key, IsOfConfigurations key →
      other.properties.get? key = store.properties.get? key) : other.Consistent := by
  have hlist := hsame WellKnown.configurations (Or.inl rfl)
  have hnames : other.configurationNames = store.configurationNames := by
    rw [configurationNames, configurationNames, get?, get?, OrderedMap.value?, OrderedMap.value?,
      hlist]
  constructor
  · intro name
    rw [hnames, ← h.agrees name, contains_iff, contains_iff,
      hsame _ (isOfConfigurations_configurationKey name)]
  · rw [hlist]
    exact h.defined

theorem Consistent.set {store : Store} (h : store.Consistent) {key : String}
    (hkey : ¬ IsOfConfigurations key) (value : Option RawText) : (store.set key value).Consistent := by
  apply h.congr
  intro other hother
  have hne : other ≠ key := fun hsame => hkey (hsame ▸ hother)
  rw [properties_set, OrderedMap.get?_insert_of_ne _ _ hne]

theorem Consistent.remove {store : Store} (h : store.Consistent) {key : String}
    (hkey : ¬ IsOfConfigurations key) : (store.remove key).Consistent := by
  apply h.congr
  intro other hother
  have hne : other ≠ key := fun hsame => hkey (hsame ▸ hother)
  rw [properties_remove, OrderedMap.get?_erase, if_neg hne]

theorem Consistent.withConfigurations {store : Store} (h : store.Consistent)
    {configurations : Properties} (hnames : ∀ name ∈ configurations.keys, isKey name) :
    (store.withConfigurations configurations).Consistent := by
  constructor
  · intro name
    -- What is neither set nor listed has no property, since the old list agreed with the properties.
    have hold : (if name ∈ store.configurationNames then none
        else store.properties.get? (configurationKey name)) = none := by
      split
      · rfl
      · rename_i hname
        rw [← h.agrees name, contains_iff, Bool.not_eq_true, Option.isSome_eq_false_iff,
          Option.isNone_iff_eq_none] at hname
        exact hname
    rw [contains_iff, get?_withConfigurations_configurationKey, hold, Option.or_none,
      configurationNames_withConfigurations _ _ hnames, OrderedMap.mem_keys_iff]
  · rw [get?_withConfigurations_configurations]
    split <;> simp

theorem Consistent.reloaded {store : Store} (h : store.Consistent)
    (hwhole : Document.unencodable? store.properties = none) : store.reloaded.Consistent := by
  have hlist : store.reloaded.configurationNames = store.configurationNames := by
    rw [configurationNames, configurationNames, (get?_reloaded_eq_iff hwhole).2 h.defined]
  constructor
  · intro name
    rw [hlist, contains_reloaded hwhole]
    exact h.agrees name
  · rw [Store.reloaded, OrderedMap.get?_mapValues]
    simp

end Store
end PropertyFiles
