import PropertyFiles.Proofs.Store.Configurations
import PropertyFiles.Proofs.Store.Merging
/-!
# Replacing the configurations of a store

Setting configurations takes away the keys of all names that were listed, leaves every other key where it
is, and puts the keys that are new at the end, in the order of the configurations. Setting the ones that
are found changes the value of no other property, and the list only loses the names without a value.
-/
namespace PropertyFiles

open WellKnown

namespace Store

section Setting
variable (store : Store) (configurations : Properties)

private theorem keys_cleared : store.cleared.keys =
    store.properties.keys.filter (· ∉ store.configurationNames.map configurationKey) := by
  rw [cleared, OrderedMap.keys_filterKeys]

private theorem configurations_mem_keys_cleared_iff :
    WellKnown.configurations ∈ store.cleared.keys ↔
      WellKnown.configurations ∈ store.properties.keys := by
  have hnot : WellKnown.configurations ∉ store.configurationNames.map configurationKey :=
    not_mem_map_configurationKey (fun name h => configurationKey_ne_configurations name h.symm) _
  rw [keys_cleared, List.mem_filter, decide_eq_true_eq, and_iff_left hnot]

private theorem keys_listed : (store.listed configurations).keys =
    (store.properties.keys.filter fun key =>
      key ∉ store.configurationNames.map configurationKey ∧
        ¬ (configurations.entries = [] ∧ key = WellKnown.configurations)) ++
    if configurations.entries ≠ [] ∧ WellKnown.configurations ∉ store.properties.keys
      then [WellKnown.configurations] else [] := by
  rw [listed]
  by_cases hempty : configurations.entries = []
  · simp [hempty, keys_cleared, and_comm]
  · have hsame := configurations_mem_keys_cleared_iff store
    rw [if_neg hempty, OrderedMap.keys_insert]
    by_cases hmem : WellKnown.configurations ∈ store.properties.keys
    · rw [if_pos (hsame.2 hmem)]
      simp [hempty, hmem, keys_cleared]
    · rw [if_neg (mt hsame.1 hmem)]
      simp [hempty, hmem, keys_cleared]

private theorem configurationKey_mem_keys_listed_iff {name : String} :
    configurationKey name ∈ (store.listed configurations).keys ↔
      name ∉ store.configurationNames ∧ configurationKey name ∈ store.properties.keys := by
  rw [OrderedMap.mem_keys_iff, get?_listed_of_ne _ _ (configurationKey_ne_configurations name),
    ← OrderedMap.mem_keys_iff, keys_cleared, List.mem_filter, decide_eq_true_eq,
    configurationKey_mem_map_iff, and_comm]

/-- The keys that stay keep their order, and the new ones follow. -/
private theorem keys_withConfigurations : (store.withConfigurations configurations).properties.keys =
    (store.listed configurations).keys ++
      (configurations.keys.filter fun name => name ∈ store.configurationNames ∨
        configurationKey name ∉ store.properties.keys).map configurationKey := by
  have hnew : (configurations.keys.map configurationKey).filter
      (· ∉ (store.listed configurations).keys) =
        (configurations.keys.filter fun name => name ∈ store.configurationNames ∨
          configurationKey name ∉ store.properties.keys).map configurationKey := by
    rw [List.filter_map]
    congr 1
    apply List.filter_congr
    intro name _
    apply decide_eq_decide.2
    rw [configurationKey_mem_keys_listed_iff, not_and_or, not_not]
  have hnodup : ((configurations.keys.filter fun name => name ∈ store.configurationNames ∨
      configurationKey name ∉ store.properties.keys).map configurationKey).Nodup :=
    (List.filter_sublist.nodup configurations.nodup_keys).map configurationKey_injective
  rw [withConfigurations_eq, OrderedMap.keys_insertAll, map_fst_keyed, hnew,
    OrderedMap.eraseDups_of_nodup hnodup]

end Setting

/-- Setting configurations with valid names always succeeds, and changes nothing but what belongs to
configurations: the list becomes that of their names, each name has its value, the names that were listed
and are not set have none, and every other property is as it was. The keys of listed names leave their
places, the other keys keep theirs, and whatever is new comes at the end in the order of the configurations. -/
theorem setConfigurations_changes_configurations (store : Store) {configurations : Properties}
    (hnames : ∀ name ∈ configurations.keys, isKey name) :
    ∃ after, store.setConfigurations configurations = .ok after ∧
      after.folder = store.folder ∧ after.kind = store.kind ∧
      after.properties.get? WellKnown.configurations =
        (if configurations.entries = [] then none
          else some (some ↑(",".intercalate configurations.keys))) ∧
      (∀ name value, configurations.get? name = some value →
        after.properties.get? (configurationKey name) = some value) ∧
      (∀ name ∈ store.configurationNames, name ∉ configurations.keys →
        after.properties.get? (configurationKey name) = none) ∧
      (∀ key, key ≠ WellKnown.configurations →
        key ∉ store.configurationNames.map configurationKey →
        key ∉ configurations.keys.map configurationKey →
        after.properties.get? key = store.properties.get? key) ∧
      after.properties.keys =
        (store.properties.keys.filter fun key =>
          key ∉ store.configurationNames.map configurationKey ∧
            ¬ (configurations.entries = [] ∧ key = WellKnown.configurations)) ++
        (if configurations.entries ≠ [] ∧ WellKnown.configurations ∉ store.properties.keys
          then [WellKnown.configurations] else []) ++
        (configurations.keys.filter fun name => name ∈ store.configurationNames ∨
          configurationKey name ∉ store.properties.keys).map configurationKey := by
  refine ⟨_, setConfigurations_eq_ok_iff.2 ⟨hnames, rfl⟩, folder_withConfigurations _ _,
    kind_withConfigurations _ _, get?_withConfigurations_configurations _ _, ?_, ?_, ?_, ?_⟩
  · intro name value hvalue
    rw [get?_withConfigurations_configurationKey, hvalue, Option.some_or]
  · intro name hold hnew
    rw [get?_withConfigurations_configurationKey, OrderedMap.get?_eq_none_iff.2 hnew, if_pos hold,
      Option.none_or]
  · intro key hlist hold hnew
    exact get?_withConfigurations_of_not_mem store configurations hlist hold hnew
  · rw [keys_withConfigurations, keys_listed]

/-- Old and new names overlap, one name is listed twice and one without a key, and a stray key stays. -/
theorem setConfigurations_changes_configurations_of_overlap :
    let store : Store := ⟨"p", .default, OrderedMap.ofList [
      ("apk-config-b", some "1"), ("x", none), ("apk-config-s", some "2"), ("apk-config-a", some "3"),
      ("apk-configurations", some "a ,, b,gone,a"), ("apk-config-n", some "4")]⟩
    let configurations : Properties := OrderedMap.ofList [("n", some "5"), ("m", none), ("a", some "6")]
    (∀ name ∈ configurations.keys, isKey name) ∧
    store.configurationNames = ["a", "b", "gone", "a"] ∧
    ∃ after, store.setConfigurations configurations = .ok after ∧
      after.properties.get? WellKnown.configurations = some (some ↑"n,m,a") ∧
      after.properties.get? "apk-config-n" = some (some ↑"5") ∧
      after.properties.get? "apk-config-b" = none ∧
      after.properties.get? "apk-config-s" = some (some ↑"2") ∧
      after.properties.keys = ["x", "apk-config-s", "apk-configurations", "apk-config-n",
        "apk-config-m", "apk-config-a"] := by
  intro store configurations
  have hnames : ∀ name ∈ configurations.keys, isKey name := by decide +kernel
  have hold : store.configurationNames = ["a", "b", "gone", "a"] := by decide +kernel
  obtain ⟨after, hafter, _, _, hlist, hset, hgone, hother, hkeys⟩ :=
    setConfigurations_changes_configurations store hnames
  refine ⟨hnames, hold, after, hafter, ?_, hset "n" _ rfl, ?_, ?_, ?_⟩
  · rw [hlist]
    decide +kernel
  · exact hgone "b" (by decide +kernel) (by decide +kernel)
  · rw [hother "apk-config-s" (by decide) (by decide +kernel) (by decide +kernel)]
    decide +kernel
  · rw [hkeys]
    decide +kernel

/-- All keys of a store are keys that a line may define. -/
def IsKeyed (store : Store) : Prop :=
  ∀ key ∈ store.properties.keys, isKey key

instance (store : Store) : Decidable store.IsKeyed :=
  inferInstanceAs (Decidable (∀ key ∈ store.properties.keys, isKey key))

private theorem isKeyed_of_load {tree : FileTree} {folder : String} {kind : Kind} {store : Store}
    (h : (load tree folder kind).1 = some store) : store.IsKeyed := by
  obtain ⟨properties, hproperties, rfl⟩ := load_eq_some_iff.1 h
  intro key hkey
  rw [OrderedMap.keys_mapValues, OrderedMap.raw, OrderedMap.keys_mapValues] at hkey
  obtain ⟨entry, hentry, rfl⟩ := List.mem_map.1 hkey
  exact (FileTree.isKey_isValue_of_loadProject hproperties hentry).1

theorem IsKeyed.merge {store : Store} (h : store.IsKeyed) (tree : FileTree) (kind : Kind) :
    (store.merge tree kind).1.IsKeyed := by
  intro key hkey
  obtain ⟨e, he, rfl⟩ := List.mem_map.1 hkey
  rcases mem_entries_merge he with he | ⟨properties, entry, hentry, hproperties, rfl⟩
  · exact h e.1 (List.mem_map_of_mem he)
  · exact (FileTree.isKey_isValue_of_loadProject hproperties hentry).1

section Found
variable (store : Store)

theorem get?_configurations (name : String) : store.configurations.get? name =
    if name ∈ store.configurationNames then store.get? (configurationKey name) else none := by
  rw [configurations, OrderedMap.get?_ofList_filterMap]

private theorem keys_configurations : store.configurations.keys =
    (store.configurationNames.filter fun name =>
      (store.get? (configurationKey name)).isSome).eraseDups := by
  rw [configurations, OrderedMap.keys_ofList_filterMap]

variable {store}

private theorem mem_keys_configurations_iff {name : String} : name ∈ store.configurations.keys ↔
    name ∈ store.configurationNames ∧ (store.get? (configurationKey name)).isSome := by
  rw [keys_configurations, List.mem_eraseDups, List.mem_filter]

private theorem IsKeyed.isKey_of_mem_keys_configurations (h : store.IsKeyed) :
    ∀ name ∈ store.configurations.keys, isKey name := by
  intro name hname
  obtain ⟨hlisted, hvalue⟩ := mem_keys_configurations_iff.1 hname
  obtain ⟨value, hvalue⟩ := Option.isSome_iff_exists.1 hvalue
  have hkey : configurationKey name ∈ store.properties.keys :=
    List.mem_map_of_mem (OrderedMap.value?_eq_some_iff.1 hvalue)
  have hne : name.toList ≠ [] := by
    rw [configurationNames] at hlisted
    split at hlisted
    · cases hlisted
    · exact toList_ne_nil_of_mem_configurationNames hlisted
  exact isKey_iff.2 ⟨hne, isKey_configurationKey_iff.1 (h _ hkey)⟩

private theorem get?_withConfigurations_found {key : String} (hkey : key ≠ WellKnown.configurations) :
    (store.withConfigurations (store.configurations.mapValues some)).get? key = store.get? key := by
  rw [get?, OrderedMap.value?]
  by_cases hname : ∃ name, key = configurationKey name
  · obtain ⟨name, rfl⟩ := hname
    rw [get?_withConfigurations_configurationKey, OrderedMap.get?_mapValues, get?_configurations]
    by_cases hlisted : name ∈ store.configurationNames
    · rw [if_pos hlisted, if_pos hlisted]
      cases store.get? (configurationKey name) <;> rfl
    · rw [if_neg hlisted, if_neg hlisted]
      rfl
  · have hnot : ∀ name, key ≠ configurationKey name := fun name h => hname ⟨name, h⟩
    rw [get?_withConfigurations_of_ne _ _ hkey hnot]
    rfl

end Found

/-- No configuration has a key in the store that the list does not account for. -/
def IsCleanFor (store : Store) (configurations : Properties) : Prop :=
  ∀ name ∈ configurations.keys,
    configurationKey name ∉ store.properties.keys ∨ name ∈ store.configurationNames

instance (store : Store) (configurations : Properties) :
    Decidable (store.IsCleanFor configurations) :=
  inferInstanceAs (Decidable (∀ name ∈ configurations.keys, _ ∨ _))

section Again
variable {store : Store} {configurations : Properties}

private theorem configurationKey_not_mem_keys_listed (h : store.IsCleanFor configurations) {key : String}
    (hkey : key ∈ configurations.keys.map configurationKey) :
    key ∉ (store.listed configurations).keys := by
  obtain ⟨name, hname, rfl⟩ := List.mem_map.1 hkey
  rw [configurationKey_mem_keys_listed_iff]
  rintro ⟨hunlisted, hmem⟩
  rcases h name hname with habsent | hlisted
  · exact habsent hmem
  · exact hunlisted hlisted

/-- Setting configurations in a store that is clean for them puts all their keys at the end. -/
private theorem entries_withConfigurations_of_clean (h : store.IsCleanFor configurations) :
    (store.withConfigurations configurations).properties.entries =
      (store.listed configurations).entries ++ keyed configurations := by
  rw [withConfigurations_eq]
  apply OrderedMap.entries_insertAll_of_nodup
  rw [List.map_append]
  refine List.nodup_append.2 ⟨(store.listed configurations).nodup, nodup_keyed configurations, ?_⟩
  rintro key hlisted _ hkey rfl
  rw [map_fst_keyed] at hkey
  exact configurationKey_not_mem_keys_listed h hkey hlisted

private theorem cleared_withConfigurations (hnames : ∀ name ∈ configurations.keys, isKey name)
    (h : store.IsCleanFor configurations) :
    (store.withConfigurations configurations).cleared = store.listed configurations := by
  have hkept : (store.listed configurations).entries.filter
      (fun e => e.1 ∉ configurations.keys.map configurationKey) =
        (store.listed configurations).entries := by
    apply List.filter_eq_self.2
    intro e he
    apply decide_eq_true
    intro hkey
    exact configurationKey_not_mem_keys_listed h hkey (List.mem_map_of_mem he)
  have hgone : (keyed configurations).filter
      (fun e => e.1 ∉ configurations.keys.map configurationKey) = [] := by
    apply List.filter_eq_nil_iff.2
    intro e he
    rw [decide_eq_true_eq, not_not, ← map_fst_keyed]
    exact List.mem_map_of_mem he
  ext1
  rw [cleared, OrderedMap.filterKeys, configurationNames_withConfigurations store _ hnames]
  simp only [entries_withConfigurations_of_clean h, List.filter_append]
  rw [hkept, hgone, List.append_nil]

private theorem listed_withConfigurations (hnames : ∀ name ∈ configurations.keys, isKey name)
    (h : store.IsCleanFor configurations) :
    (store.withConfigurations configurations).listed configurations =
      store.listed configurations := by
  rw [listed, cleared_withConfigurations hnames h, listed]
  by_cases hempty : configurations.entries = []
  · simp only [if_pos hempty, OrderedMap.erase_erase]
  · simp only [if_neg hempty, OrderedMap.insert_insert]

/-- Setting configurations in a store that is clean for them is settled: a second time it changes
nothing. -/
theorem withConfigurations_of_clean (hnames : ∀ name ∈ configurations.keys, isKey name)
    (h : store.IsCleanFor configurations) :
    (store.withConfigurations configurations).withConfigurations configurations =
      store.withConfigurations configurations := by
  rw [withConfigurations_eq, listed_withConfigurations hnames h, folder_withConfigurations,
    kind_withConfigurations, ← withConfigurations_eq]

theorem withConfigurations_withConfigurations (hnames : ∀ name ∈ configurations.keys, isKey name)
    (h : ∀ name ∈ configurations.keys, name ∈ store.configurationNames) :
    (store.withConfigurations configurations).withConfigurations configurations =
      store.withConfigurations configurations :=
  withConfigurations_of_clean hnames fun name hname => Or.inr (h name hname)

end Again

/-- Every loaded store is keyed, and stays so by merges. In a keyed store setting the configurations that
are found succeeds and does no harm. They are found again in the same order, no other property has another
value, and the list becomes that of the names with a value, or goes away if there are none. Doing so again
changes nothing at all. -/
theorem setConfigurations_configurations_settles :
    (∀ tree folder kind store, (load tree folder kind).1 = some store → store.IsKeyed) ∧
    (∀ tree (store : Store) kind, store.IsKeyed → (store.merge tree kind).1.IsKeyed) ∧
    ∀ store : Store, store.IsKeyed →
      ∃ after, store.setConfigurations (store.configurations.mapValues some) = .ok after ∧
        after.configurations = store.configurations ∧
        (∀ key, key ≠ WellKnown.configurations → after.get? key = store.get? key) ∧
        store.configurations.keys = (store.configurationNames.filter fun name =>
          (store.get? (configurationKey name)).isSome).eraseDups ∧
        after.properties.get? WellKnown.configurations =
          (if store.configurations.keys = [] then none
            else some (some ↑(",".intercalate store.configurations.keys))) ∧
        after.setConfigurations (after.configurations.mapValues some) = .ok after := by
  refine ⟨fun _ _ _ _ => isKeyed_of_load, fun tree _ kind h => h.merge tree kind, ?_⟩
  intro store hkeyed
  have hvalid := hkeyed.isKey_of_mem_keys_configurations
  have hnames : ∀ name ∈ (store.configurations.mapValues some).keys, isKey name := by
    rwa [OrderedMap.keys_mapValues]
  have hlisted : ∀ name ∈ (store.configurations.mapValues some).keys,
      name ∈ store.configurationNames := by
    rw [OrderedMap.keys_mapValues]
    exact fun name hname => (mem_keys_configurations_iff.1 hname).1
  have hfound := configurations_withConfigurations store hvalid
  refine ⟨_, setConfigurations_eq_ok_iff.2 ⟨hnames, rfl⟩, hfound,
    fun key => get?_withConfigurations_found, keys_configurations store, ?_, ?_⟩
  · have hempty : (store.configurations.mapValues some).entries = [] ↔
        store.configurations.keys = [] := by
      rw [OrderedMap.keys, OrderedMap.mapValues, List.map_eq_nil_iff, List.map_eq_nil_iff]
    simp only [get?_withConfigurations_configurations, OrderedMap.keys_mapValues, hempty]
  · rw [hfound]
    exact setConfigurations_eq_ok_iff.2
      ⟨hnames, (withConfigurations_withConfigurations hnames hlisted).symm⟩

/-- The list, with a blank in one of its names, comes from one file, and one of the keys from another. -/
theorem setConfigurations_configurations_settles_of_merged :
    let text := "apk-config-b=1\napk-configurations = b ,, c d,a,b,gone\nx=2\n"
    let tree := ((FileTree.emptyAt "work").place (Path.ofString "p/build.properties")
      (.file text.toUTF8)).place (Path.ofString "p/default.properties")
        (.file "apk-config-a=3\nx=4\n".toUTF8)
    ∃ store, (load tree "p" .build).1 = some store ∧
      let merged := (store.merge tree .default).1
      merged.IsKeyed ∧
      ∃ after, merged.setConfigurations (merged.configurations.mapValues some) = .ok after ∧
        after.configurations = merged.configurations ∧ after.get? "x" = merged.get? "x" ∧
        after.properties.get? WellKnown.configurations = some (some ↑"b,a") ∧
        after.setConfigurations (after.configurations.mapValues some) = .ok after := by
  intro text tree
  have hkeys : (load tree "p" .build).1.map
      (fun store => (store.merge tree .default).1.configurations.keys) = some ["b", "a"] := by
    decide +kernel
  obtain ⟨store, hload, hfound⟩ := Option.map_eq_some_iff.1 hkeys
  obtain ⟨hloaded, hmerged, hsettles⟩ := setConfigurations_configurations_settles
  have hkeyed := hmerged tree store .default (hloaded tree "p" .build store hload)
  obtain ⟨after, hafter, hsame, hother, _, hlist, hagain⟩ := hsettles _ hkeyed
  rw [hfound] at hlist
  exact ⟨store, hload, hkeyed, after, hafter, hsame, hother "x" (by decide), hlist, hagain⟩

end Store
end PropertyFiles
