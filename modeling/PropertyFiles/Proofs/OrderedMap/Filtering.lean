import PropertyFiles.Filter
import PropertyFiles.Proofs.OrderedMap.Merging
/-!
# Filtering maps and merges

Whether a key stays depends on the key alone. So filters may be applied in any order, and it is the same
to filter what was merged or to merge what was filtered: a merge fills in the same keys, in the same
places, among those that stay.
-/
namespace PropertyFiles

namespace OrderedMap

private theorem filterKeys_filterKeys (p q : κ → Bool) (m : OrderedMap κ α) :
    (m.filterKeys q).filterKeys p = m.filterKeys fun k => p k && q k := by
  ext1
  simp only [filterKeys, List.filter_filter]

variable [DecidableEq κ]

private theorem filterKeys_insert (p : κ → Bool) (m : OrderedMap κ α) (k : κ) (v : α) :
    (m.insert k v).filterKeys p = if p k then (m.filterKeys p).insert k v else m.filterKeys p := by
  apply ext_get?
  · by_cases hp : p k <;> by_cases hk : k ∈ m.keys <;>
      simp [keys_insert, hk, hp, List.filter_append]
  · intro j
    by_cases hp : p k <;> by_cases hj : j = k <;>
      simp [get?_filterKeys, get?_insert, hj, hp]

private theorem filterKeys_insertAll (p : κ → Bool) (m : OrderedMap κ α) (entries : List (κ × α)) :
    (m.insertAll entries).filterKeys p =
      (m.filterKeys p).insertAll (entries.filter fun e => p e.1) := by
  induction entries generalizing m with
  | nil => rfl
  | cons e rest ih =>
    rw [insertAll_cons, ih, filterKeys_insert]
    by_cases he : p e.1
    · have hcons : (e :: rest).filter (fun e => p e.1) = e :: rest.filter fun e => p e.1 :=
        List.filter_cons_of_pos he
      rw [if_pos he, hcons, insertAll_cons]
    · have hcons : (e :: rest).filter (fun e => p e.1) = rest.filter fun e => p e.1 :=
        List.filter_cons_of_neg he
      rw [if_neg he, hcons]

/-- A key that stays is filled in exactly if it was without the filter. -/
private theorem filled_filterKeys (p : κ → Bool) (target incoming : OrderedMap κ (Option α)) :
    (target.filterKeys p).filled (incoming.filterKeys p) =
      (target.filled incoming).filter fun e => p e.1 := by
  have hentries : (incoming.filterKeys p).entries = incoming.entries.filter fun e => p e.1 := rfl
  rw [filled, filled, hentries, List.filter_filter, List.filter_filter]
  apply List.filter_congr
  intro e _
  by_cases he : p e.1
  · rw [fills, fills, value?, value?, get?_filterKeys, if_pos he, Bool.and_comm]
  · simp [he]

/-- Merging what was filtered fills in what stays of the merge. -/
theorem mergeMissing_filterKeys (p : κ → Bool) (target incoming : OrderedMap κ (Option α)) :
    (target.filterKeys p).mergeMissing (incoming.filterKeys p) =
      ⟨(target.mergeMissing incoming).added.filter p,
        (target.mergeMissing incoming).map.filterKeys p⟩ := by
  have hkeys : ((target.filled incoming).filter fun e => p e.1).map Prod.fst =
      ((target.filled incoming).map Prod.fst).filter p := by
    rw [List.filter_map]
    rfl
  rw [mergeMissing_eq, mergeMissing_eq, filled_filterKeys, filterKeys_insertAll, hkeys]

end OrderedMap

namespace Filter

private theorem select_select (f g : Filter) (m : OrderedMap String α) :
    f.select (g.select m) = m.filterKeys fun key => f.accepts key && g.accepts key :=
  OrderedMap.filterKeys_filterKeys f.accepts g.accepts m

private theorem select_comm (f g : Filter) (m : OrderedMap String α) :
    f.select (g.select m) = g.select (f.select m) := by
  simp only [select_select, Bool.and_comm]

/-- Filtering goes together with merging and with itself. It does not matter whether maps are filtered
before they are merged or after, neither for what they become nor for the keys that count as added.
Two filters may be applied in either order, one of them twice is the same as once, and a filter with two
conditions is that of the one and that of the other, in either order. -/
theorem select_commutes (f g : Filter) (target incoming : OrderedMap String (Option α)) :
    let merged := target.mergeMissing incoming
    let filtered := (f.select target).mergeMissing (f.select incoming)
    let byLeading : Filter := { leading := f.leading }
    let byTest : Filter := { test := f.test }
    filtered.map = f.select merged.map ∧
      filtered.added = merged.added.filter f.accepts ∧
      f.select (g.select target) = g.select (f.select target) ∧
      f.select (f.select target) = f.select target ∧
      byTest.select (byLeading.select target) = f.select target ∧
      byLeading.select (byTest.select target) = f.select target := by
  intro merged filtered byLeading byTest
  have hfiltered : filtered = ⟨merged.added.filter f.accepts, f.select merged.map⟩ :=
    OrderedMap.mergeMissing_filterKeys f.accepts target incoming
  have hself : f.select (f.select target) = f.select target := by
    simp only [select_select, Bool.and_self]
    rfl
  have hboth : byLeading.select (byTest.select target) = f.select target := by
    rw [select_select, select]
    congr 1
    funext key
    simp [accepts, byLeading, byTest]
  refine ⟨by rw [hfiltered], by rw [hfiltered], select_comm f g target, hself, ?_, hboth⟩
  rw [select_comm, hboth]

end Filter
end PropertyFiles
