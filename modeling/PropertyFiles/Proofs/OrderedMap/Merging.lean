import PropertyFiles.OrderedMap.Lemmas
import PropertyFiles.OrderedMap.Merge
/-!
# What a merge fills in

A merge looks at the map that it changes, but no key comes twice, so what it fills in depends only on
the map it started from. It is the same as inserting these entries: a key that was there without a
value is filled in its place, and the new keys follow in the incoming order.
-/
namespace PropertyFiles.OrderedMap

theorem mem_entries_defined {m : OrderedMap κ (Option α)} {e : κ × α} :
    e ∈ m.defined.entries ↔ (e.1, some e.2) ∈ m.entries := by
  change e ∈ definedEntries m.entries ↔ _
  induction m.entries with
  | nil => simp [definedEntries]
  | cons entry rest ih =>
    obtain ⟨k, _ | v⟩ := entry
    · simp [definedEntries, ih]
    · simp [definedEntries, ih, Prod.ext_iff]

theorem keys_defined_of_isSome {m : OrderedMap κ (Option α)} (h : ∀ e ∈ m.entries, e.2.isSome) :
    m.defined.keys = m.keys := by
  rw [keys_defined, List.filter_eq_self.2 h]
  rfl

theorem isSome_of_mem_mapValues_some {m : OrderedMap κ α} :
    ∀ e ∈ (m.mapValues some).entries, e.2.isSome := by
  intro e he
  obtain ⟨entry, _, rfl⟩ := List.mem_map.1 he
  rfl

theorem keys_defined_mapValues_some (m : OrderedMap κ α) :
    (m.mapValues some).defined.keys = m.keys := by
  rw [keys_defined_of_isSome isSome_of_mem_mapValues_some]
  exact keys_mapValues some m

variable [DecidableEq κ]

/-- Whether a merge gives the key of an incoming entry its value. -/
def fills (target : OrderedMap κ (Option α)) (e : κ × Option α) : Bool :=
  e.2.isSome && (target.value? e.1).isNone

def filled (target incoming : OrderedMap κ (Option α)) : List (κ × Option α) :=
  incoming.entries.filter target.fills

private theorem Merged.take_eq (merged : Merged κ α) (e : κ × Option α) :
    merged.take e = if merged.map.fills e then
      ⟨merged.added ++ [e.1], merged.map.insert e.1 e.2⟩ else merged := by
  obtain ⟨k, _ | v⟩ := e
  · simp [Merged.take, fills]
  · simp [Merged.take, fills]

/-- Whether a key is filled does not depend on what another key is given. -/
theorem fills_insert_of_ne (target : OrderedMap κ (Option α)) {k : κ} (v : Option α)
    {e : κ × Option α} (h : e.1 ≠ k) : (target.insert k v).fills e = target.fills e := by
  rw [fills, fills, value?, value?, get?_insert_of_ne _ _ h]

private theorem foldl_take (entries : List (κ × Option α)) (merged : Merged κ α)
    (hn : (entries.map Prod.fst).Nodup) :
    entries.foldl Merged.take merged =
      ⟨merged.added ++ (entries.filter merged.map.fills).map Prod.fst,
        merged.map.insertAll (entries.filter merged.map.fills)⟩ := by
  -- The map changes with every entry taken, but at a key that no later entry has.
  induction entries generalizing merged with
  | nil => simp [insertAll]
  | cons e rest ih =>
    rw [List.map_cons, List.nodup_cons] at hn
    rw [List.foldl_cons, Merged.take_eq]
    by_cases he : merged.map.fills e
    · have hrest : rest.filter (merged.map.insert e.1 e.2).fills =
          rest.filter merged.map.fills := by
        apply List.filter_congr
        intro other hother
        apply fills_insert_of_ne
        intro hsame
        exact hn.1 (hsame ▸ List.mem_map_of_mem hother)
      rw [if_pos he, ih _ hn.2, hrest, List.filter_cons_of_pos he, insertAll_cons, List.map_cons,
        List.append_assoc, List.singleton_append]
    · rw [if_neg he, ih _ hn.2, List.filter_cons_of_neg he]

/-- A merge inserts what is filled, and reports its keys. -/
theorem mergeMissing_eq (target incoming : OrderedMap κ (Option α)) :
    target.mergeMissing incoming =
      ⟨(target.filled incoming).map Prod.fst, target.insertAll (target.filled incoming)⟩ := by
  rw [mergeMissing, foldl_take _ _ incoming.nodup, List.nil_append]
  rfl

section Laws
variable {target incoming : OrderedMap κ (Option α)}

theorem mem_filled_iff {e : κ × Option α} :
    e ∈ target.filled incoming ↔
      e ∈ incoming.entries ∧ e.2.isSome ∧ target.value? e.1 = none := by
  rw [filled, List.mem_filter, fills, Bool.and_eq_true, Option.isNone_iff_eq_none]

private theorem nodup_filled (target incoming : OrderedMap κ (Option α)) :
    ((target.filled incoming).map Prod.fst).Nodup :=
  (List.filter_sublist.map Prod.fst).nodup incoming.nodup

theorem value?_eq_some_iff {m : OrderedMap κ (Option α)} {k : κ} {v : α} :
    m.value? k = some v ↔ (k, some v) ∈ m.entries := by
  rw [value?, Option.join_eq_some_iff, get?_eq_some_iff]

theorem get?_defined (m : OrderedMap κ (Option α)) (k : κ) : m.defined.get? k = m.value? k := by
  refine Option.ext fun v => ?_
  rw [get?_eq_some_iff, mem_entries_defined, value?_eq_some_iff]

/-- The first definition wins. -/
theorem value?_mergeMissing (target incoming : OrderedMap κ (Option α)) (k : κ) :
    (target.mergeMissing incoming).map.value? k = (target.value? k).or (incoming.value? k) := by
  rw [mergeMissing_eq]
  by_cases hk : k ∈ (target.filled incoming).map Prod.fst
  · obtain ⟨⟨j, value⟩, he, rfl⟩ := List.mem_map.1 hk
    obtain ⟨hincoming, hsome, hnone⟩ := mem_filled_iff.1 he
    obtain ⟨v, rfl⟩ := Option.isSome_iff_exists.1 hsome
    have hvalue : incoming.value? j = some v := value?_eq_some_iff.2 hincoming
    rw [value?, get?_insertAll_of_mem _ (nodup_filled target incoming) he]
    simp only at hnone ⊢
    rw [hnone, hvalue]
    rfl
  · have hsame : (target.insertAll (target.filled incoming)).value? k = target.value? k := by
      rw [value?, get?_insertAll_of_not_mem _ hk, value?]
    rw [hsame]
    cases htarget : target.value? k with
    | some v => rfl
    | none =>
      rw [Option.none_or, eq_comm, Option.eq_none_iff_forall_ne_some]
      intro v hv
      apply hk
      have he := mem_filled_iff.2 ⟨value?_eq_some_iff.1 hv, rfl, htarget⟩
      exact List.mem_map_of_mem he

/-- What is filled in, seen from the keys. -/
theorem added_mergeMissing (target incoming : OrderedMap κ (Option α)) :
    (target.mergeMissing incoming).added =
      incoming.keys.filter fun k => (incoming.value? k).isSome && (target.value? k).isNone := by
  have hfilled : target.filled incoming = incoming.entries.filter fun e =>
      (incoming.value? e.1).isSome && (target.value? e.1).isNone := by
    apply List.filter_congr
    intro e he
    have hget : incoming.get? e.1 = some e.2 := get?_eq_some_iff.2 he
    rw [fills, value?, value?, hget, Option.join_some]
  rw [mergeMissing_eq, hfilled, keys, List.filter_map]
  rfl

/-- A key that is filled has the incoming value; any other is as it was. -/
theorem get?_mergeMissing (target incoming : OrderedMap κ (Option α)) (k : κ) :
    (target.mergeMissing incoming).map.get? k =
      if k ∈ (target.mergeMissing incoming).added then incoming.get? k else target.get? k := by
  rw [mergeMissing_eq]
  by_cases hk : k ∈ (target.filled incoming).map Prod.fst
  · obtain ⟨e, he, rfl⟩ := List.mem_map.1 hk
    have hincoming : incoming.get? e.1 = some e.2 := get?_eq_some_iff.2 (mem_filled_iff.1 he).1
    rw [if_pos hk, get?_insertAll_of_mem _ (nodup_filled target incoming) he, hincoming]
  · rw [if_neg hk, get?_insertAll_of_not_mem _ hk]

private theorem keys_mergeMissing_added (target incoming : OrderedMap κ (Option α)) :
    (target.mergeMissing incoming).map.keys =
      target.keys ++ (target.mergeMissing incoming).added.filter (· ∉ target.keys) := by
  have hn : (((target.filled incoming).map Prod.fst).filter (· ∉ target.keys)).Nodup :=
    List.filter_sublist.nodup (nodup_filled target incoming)
  rw [mergeMissing_eq, keys_insertAll, eraseDups_of_nodup hn]

private theorem filter_filled_eq_filter_defined :
    ((target.filled incoming).map Prod.fst).filter (· ∉ target.keys) =
      incoming.defined.keys.filter (· ∉ target.keys) := by
  rw [keys_defined, filled, List.filter_map, List.filter_map, List.filter_filter,
    List.filter_filter]
  congr 1
  apply List.filter_congr
  intro e _
  by_cases he : e.1 ∈ target.keys
  · simp [he]
  · have hnone : target.value? e.1 = none := by
      rw [value?, get?_eq_none_iff.2 he]
      rfl
    simp [he, fills, hnone]

/-- Keys keep their places, with or without a value; the new ones follow in the incoming order. -/
theorem keys_mergeMissing (target incoming : OrderedMap κ (Option α)) :
    (target.mergeMissing incoming).map.keys =
      target.keys ++ incoming.defined.keys.filter (· ∉ target.keys) := by
  rw [keys_mergeMissing_added, mergeMissing_eq, filter_filled_eq_filter_defined]

theorem value?_mapValues_some (m : OrderedMap κ α) (k : κ) :
    (m.mapValues some).value? k = m.get? k := by
  rw [value?, get?_mapValues]
  cases m.get? k <;> rfl

/-- A merge that has nothing to fill in changes nothing. -/
theorem mergeMissing_of_defined
    (h : ∀ k v, incoming.value? k = some v → (target.value? k).isSome) :
    target.mergeMissing incoming = ⟨[], target⟩ := by
  have hnone : target.filled incoming = [] := by
    apply List.eq_nil_iff_forall_not_mem.2
    intro e he
    obtain ⟨hincoming, hsome, htarget⟩ := mem_filled_iff.1 he
    obtain ⟨v, hv⟩ := Option.isSome_iff_exists.1 hsome
    have hdefined := h e.1 v (value?_eq_some_iff.2 (hv ▸ hincoming))
    rw [htarget] at hdefined
    cases hdefined
  rw [mergeMissing_eq, hnone]
  rfl

end Laws

/-- All that a merge does, seen from the map it began with. The keys that count as added are those of
the incoming map that have a value there and none in the target, in the incoming order. Each of them has
the incoming value then; every other key has what the target had for it, no value included, or is absent
as before. No key of the target moves, also if it is filled in its place; behind them come the added
keys that the target did not have. -/
theorem mergeMissing_fills (target incoming : OrderedMap κ (Option α)) :
    let merged := target.mergeMissing incoming
    merged.added =
        incoming.keys.filter (fun k => (incoming.value? k).isSome && (target.value? k).isNone) ∧
      (∀ k, merged.map.get? k = if k ∈ merged.added then incoming.get? k else target.get? k) ∧
      merged.map.keys = target.keys ++ merged.added.filter (· ∉ target.keys) := by
  intro merged
  exact ⟨added_mergeMissing target incoming, get?_mergeMissing target incoming,
    keys_mergeMissing_added target incoming⟩

end PropertyFiles.OrderedMap
