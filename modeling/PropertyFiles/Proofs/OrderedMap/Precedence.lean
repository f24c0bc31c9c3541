import PropertyFiles.Proofs.OrderedMap.Merging
/-!
# The order of merges

Maps that are merged one after another rank in this order: the first of them that defines a key gives it
its value. So it does not matter whether the later ones are merged with each other first, nor in which
order two maps follow that agree on what both define, and a map merged again has nothing to add. The
places of the keys depend on more: a key without a value keeps its place in a map that others are merged
into, but is passed over in one that is merged itself.
-/
namespace PropertyFiles.OrderedMap

variable [DecidableEq κ]

private theorem get?_eq_get?_iff {m n : OrderedMap κ (Option α)} {k : κ} :
    m.get? k = n.get? k ↔ m.value? k = n.value? k ∧ (k ∈ m.keys ↔ k ∈ n.keys) := by
  rw [value?, value?, mem_keys_iff, mem_keys_iff]
  rcases m.get? k with _ | _ | v <;> rcases n.get? k with _ | _ | w <;> simp

private theorem mem_keys_defined_iff {m : OrderedMap κ (Option α)} {k : κ} :
    k ∈ m.defined.keys ↔ (m.value? k).isSome := by
  rw [mem_keys_iff, get?_defined]

private theorem mem_keys_mergeMissing_iff {target incoming : OrderedMap κ (Option α)} {k : κ} :
    k ∈ (target.mergeMissing incoming).map.keys ↔
      k ∈ target.keys ∨ (incoming.value? k).isSome := by
  rw [keys_mergeMissing, List.mem_append, List.mem_filter, mem_keys_defined_iff]
  by_cases hk : k ∈ target.keys <;> simp [hk]

private theorem isSome_of_mem_mergeMissing {target incoming : OrderedMap κ (Option α)}
    (h : ∀ e ∈ target.entries, e.2.isSome) :
    ∀ e ∈ (target.mergeMissing incoming).map.entries, e.2.isSome := by
  rintro ⟨k, value⟩ he
  have hget := get?_eq_some_iff.2 he
  rw [get?_mergeMissing] at hget
  split at hget
  · rename_i hadded
    rw [added_mergeMissing, List.mem_filter, value?, hget] at hadded
    exact (Bool.and_eq_true_iff.1 hadded.2).1
  · exact h _ (get?_eq_some_iff.1 hget)

section Laws
variable (a b c : OrderedMap κ (Option α))

private theorem get?_mergeMissing_assoc (k : κ) :
    ((a.mergeMissing b).map.mergeMissing c).map.get? k =
      (a.mergeMissing (b.mergeMissing c).map).map.get? k := by
  rw [get?_eq_get?_iff]
  constructor
  · simp only [value?_mergeMissing, Option.or_assoc]
  · simp only [mem_keys_mergeMissing_iff, value?_mergeMissing, Option.isSome_or, Bool.or_eq_true,
      or_assoc]

/-- The keys come in the same order as well if the middle map has a value for each of its own. -/
private theorem mergeMissing_assoc (h : ∀ e ∈ b.entries, e.2.isSome) :
    ((a.mergeMissing b).map.mergeMissing c).map = (a.mergeMissing (b.mergeMissing c).map).map := by
  apply ext_get? _ (get?_mergeMissing_assoc a b c)
  have hb : b.defined.keys = b.keys := keys_defined_of_isSome h
  have hbc : (b.mergeMissing c).map.defined.keys = (b.mergeMissing c).map.keys :=
    keys_defined_of_isSome (isSome_of_mem_mergeMissing h)
  have hnew : c.defined.keys.filter (· ∉ a.keys ++ b.keys.filter (· ∉ a.keys)) =
      (c.defined.keys.filter (· ∉ b.keys)).filter (· ∉ a.keys) := by
    rw [List.filter_filter]
    apply List.filter_congr
    intro k _
    by_cases ha : k ∈ a.keys <;> by_cases hk : k ∈ b.keys <;> simp [ha, hk]
  rw [keys_mergeMissing, keys_mergeMissing a b, keys_mergeMissing a, hbc, keys_mergeMissing b c, hb,
    hnew, List.filter_append, List.append_assoc]

private theorem get?_mergeMissing_comm (k : κ)
    (h : ∀ v w, b.value? k = some v → c.value? k = some w → v = w) :
    ((a.mergeMissing b).map.mergeMissing c).map.get? k =
      ((a.mergeMissing c).map.mergeMissing b).map.get? k := by
  have hor : (b.value? k).or (c.value? k) = (c.value? k).or (b.value? k) := by
    cases hb : b.value? k with
    | none => rw [Option.none_or, Option.or_none]
    | some v =>
      cases hc : c.value? k with
      | none => rfl
      | some w => rw [Option.some_or, Option.some_or, h v w hb hc]
  rw [get?_eq_get?_iff]
  constructor
  · simp only [value?_mergeMissing, Option.or_assoc, hor]
  · simp only [mem_keys_mergeMissing_iff]
    exact or_right_comm

private theorem mergeMissing_again :
    (a.mergeMissing b).map.mergeMissing b = ⟨[], (a.mergeMissing b).map⟩ := by
  apply mergeMissing_of_defined
  intro k v hv
  rw [value?_mergeMissing, hv, Option.isSome_or, Option.isSome_some, Bool.or_true]

end Laws

/-- What the order of merges changes and what it does not. Merging two maps one after the other gives
every key the same value, or its absence, as merging the second into the first before; the maps are equal
with the order of their keys if the first has a value for each key, as what a file defines always has. Two
maps that agree where both have values may be merged in either order, as far as values and presence go. A
map that is merged again adds no key and changes nothing. -/
theorem mergeMissing_order (a b c : OrderedMap κ (Option α)) :
    let merge (target incoming : OrderedMap κ (Option α)) := (target.mergeMissing incoming).map
    (∀ k, (merge (merge a b) c).get? k = (merge a (merge b c)).get? k) ∧
      ((∀ e ∈ b.entries, e.2.isSome) → merge (merge a b) c = merge a (merge b c)) ∧
      (∀ loaded : OrderedMap κ α, merge (merge a (loaded.mapValues some)) c =
        merge a (merge (loaded.mapValues some) c)) ∧
      ((∀ k v w, b.value? k = some v → c.value? k = some w → v = w) →
        ∀ k, (merge (merge a b) c).get? k = (merge (merge a c) b).get? k) ∧
      (merge a b).mergeMissing b = ⟨[], merge a b⟩ := by
  intro merge
  exact ⟨get?_mergeMissing_assoc a b c, mergeMissing_assoc a b c,
    fun loaded => mergeMissing_assoc a (loaded.mapValues some) c isSome_of_mem_mapValues_some,
    fun h k => get?_mergeMissing_comm a b c k (h k), mergeMissing_again a b⟩

/-- Keys without a value in the first and the last map, and two maps that share a key. -/
theorem mergeMissing_order_of_shared :
    let a : OrderedMap String (Option String) := .ofList [("x", none), ("y", some "1"), ("u", none)]
    let b : OrderedMap String (Option String) := .ofList [("z", some "2"), ("y", some "3"), ("w", some "4")]
    let c : OrderedMap String (Option String) := .ofList [("w", some "4"), ("x", some "5"), ("u", none)]
    let merge (target incoming : OrderedMap String (Option String)) :=
      (target.mergeMissing incoming).map
    (∀ e ∈ b.entries, e.2.isSome) ∧
      (∀ k v w, b.value? k = some v → c.value? k = some w → v = w) ∧
      merge (merge a b) c = merge a (merge b c) ∧
      (∀ k, (merge (merge a b) c).get? k = (merge (merge a c) b).get? k) ∧
      merge (merge a b) c ≠ merge (merge a c) b := by
  intro a b c merge
  have hb : ∀ e ∈ b.entries, e.2.isSome := by decide
  have hagree : ∀ k v w, b.value? k = some v → c.value? k = some w → v = w := by
    have hall : ∀ e ∈ b.entries, ∀ e' ∈ c.entries, e.1 = e'.1 → e.2 = e'.2 := by decide
    intro k v w hv hw
    exact Option.some.inj (hall _ (value?_eq_some_iff.1 hv) _ (value?_eq_some_iff.1 hw) rfl)
  obtain ⟨_, hassoc, _, hcomm, _⟩ := mergeMissing_order a b c
  exact ⟨hb, hagree, hassoc hb, hcomm hagree, by decide⟩

/-- A key without a value in the middle map is passed over, or filled in its place: the orders differ. -/
example :
    let b : OrderedMap Nat (Option Nat) := .ofList [(1, none), (2, some 2)]
    let c : OrderedMap Nat (Option Nat) := .ofList [(1, some 1)]
    (((empty.mergeMissing b).map.mergeMissing c).map.keys = [2, 1]) ∧
      (empty.mergeMissing (b.mergeMissing c).map).map.keys = [1, 2] := by
  decide

end PropertyFiles.OrderedMap
