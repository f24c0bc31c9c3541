import PropertyFiles.Proofs.Store.Reconfiguring
/-!
# Configurations that are set again

The configurations that were set last are the ones that count, and nothing of the earlier ones is left,
as long as these did not take over a stray key. A stray key, which the list does not name, is overwritten
in its place by the first call and moved to the end by the second, so that from then on nothing changes.
-/
namespace PropertyFiles

open WellKnown

namespace Store

section Overwriting
variable {store : Store} {first second : Properties}

private theorem get?_withConfigurations_of_clean (hfirst : ∀ name ∈ first.keys, isKey name)
    (h : store.IsCleanFor first) (name : String) :
    (if name ∈ (store.withConfigurations first).configurationNames then none
      else (store.withConfigurations first).properties.get? (configurationKey name)) =
    if name ∈ store.configurationNames then none
      else store.properties.get? (configurationKey name) := by
  rw [configurationNames_withConfigurations store first hfirst,
    get?_withConfigurations_configurationKey]
  by_cases hname : name ∈ first.keys
  · rw [if_pos hname]
    rcases h name hname with habsent | hlisted
    · rw [OrderedMap.get?_eq_none_iff.2 habsent, ite_self]
    · rw [if_pos hlisted]
  · rw [if_neg hname, OrderedMap.get?_eq_none_iff.2 hname, Option.none_or]

private theorem get?_withConfigurations_withConfigurations (hfirst : ∀ name ∈ first.keys, isKey name)
    (h : store.IsCleanFor first) (key : String) :
    ((store.withConfigurations first).withConfigurations second).properties.get? key =
      (store.withConfigurations second).properties.get? key := by
  by_cases hlist : key = WellKnown.configurations
  · rw [hlist, get?_withConfigurations_configurations, get?_withConfigurations_configurations]
  · by_cases hname : ∃ name, key = configurationKey name
    · obtain ⟨name, rfl⟩ := hname
      rw [get?_withConfigurations_configurationKey, get?_withConfigurations_of_clean hfirst h,
        ← get?_withConfigurations_configurationKey]
    · have hother : ∀ name, key ≠ configurationKey name := fun name hkey => hname ⟨name, hkey⟩
      simp only [get?_withConfigurations_of_ne _ _ hlist hother]

end Overwriting

/-- Configurations that are set again overwrite each other. All calls succeed. In a store without stray
keys for the first configurations, setting others after them gives every property the same value as
setting only the others, and setting the same again changes nothing at all, order of entries included.
In any store the third call with the same configurations changes nothing any more. -/
theorem setConfigurations_overwrites (store : Store) {first second : Properties}
    (hfirst : ∀ name ∈ first.keys, isKey name) (hsecond : ∀ name ∈ second.keys, isKey name) :
    ∃ once twice thrice overwritten alone,
      store.setConfigurations first = .ok once ∧ once.setConfigurations first = .ok twice ∧
      twice.setConfigurations first = .ok thrice ∧
      once.setConfigurations second = .ok overwritten ∧
      store.setConfigurations second = .ok alone ∧
      (store.IsCleanFor first →
        (∀ key, overwritten.properties.get? key = alone.properties.get? key) ∧ twice = once) ∧
      thrice = twice := by
  have hset (store : Store) {configurations : Properties}
      (hnames : ∀ name ∈ configurations.keys, isKey name) :
      store.setConfigurations configurations = .ok (store.withConfigurations configurations) :=
    setConfigurations_eq_ok_iff.2 ⟨hnames, rfl⟩
  refine ⟨_, _, _, _, _, hset store hfirst, hset _ hfirst, hset _ hfirst, hset _ hsecond,
    hset store hsecond, ?_, ?_⟩
  · intro hclean
    exact ⟨get?_withConfigurations_withConfigurations hfirst hclean,
      withConfigurations_of_clean hfirst hclean⟩
  · -- After the first call the list names just what is set.
    apply withConfigurations_withConfigurations hfirst
    rw [configurationNames_withConfigurations store first hfirst]
    exact fun _ hname => hname

/-- Old and new names overlap, a listed name has no key, and an unlisted one belongs to neither. -/
theorem setConfigurations_overwrites_of_overlap :
    let store : Store := ⟨"p", .default, OrderedMap.ofList [
      ("apk-config-b", some "1"), ("apk-config-s", some "2"), ("x", none),
      ("apk-configurations", some "a ,, b,gone"), ("apk-config-a", some "3")]⟩
    let first : Properties := OrderedMap.ofList [("b", some "4"), ("gone", some "5"), ("n", none)]
    let second : Properties := OrderedMap.ofList [("m", some "6"), ("a", some "7")]
    (∀ name ∈ first.keys, isKey name) ∧ (∀ name ∈ second.keys, isKey name) ∧
    store.IsCleanFor first ∧ ∃ once overwritten alone,
      store.setConfigurations first = .ok once ∧ once.setConfigurations first = .ok once ∧
      once.setConfigurations second = .ok overwritten ∧
      store.setConfigurations second = .ok alone ∧
      ∀ key, overwritten.properties.get? key = alone.properties.get? key := by
  intro store first second
  have hfirst : ∀ name ∈ first.keys, isKey name := by decide +kernel
  have hsecond : ∀ name ∈ second.keys, isKey name := by decide +kernel
  have hclean : store.IsCleanFor first := by decide +kernel
  obtain ⟨once, twice, thrice, overwritten, alone, honce, htwice, _, hoverwritten, halone, hsame, _⟩ :=
    setConfigurations_overwrites store hfirst hsecond
  obtain ⟨hvalues, rfl⟩ := hsame hclean
  exact ⟨hfirst, hsecond, hclean, _, overwritten, alone, honce, htwice, hoverwritten, halone, hvalues⟩

/-- A stray key moves to the end at the second call. -/
example :
    let store : Store := ⟨"p", .default, OrderedMap.ofList [("apk-config-s", some "1"), ("x", none)]⟩
    let configurations : Properties := OrderedMap.ofList [("s", some "2")]
    let once := store.withConfigurations configurations
    ¬ store.IsCleanFor configurations ∧
      once.properties.keys = ["apk-config-s", "x", "apk-configurations"] ∧
      (once.withConfigurations configurations).properties.keys =
        ["x", "apk-configurations", "apk-config-s"] := by
  decide +kernel

end Store
end PropertyFiles
