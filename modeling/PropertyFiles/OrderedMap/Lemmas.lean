import PropertyFiles.OrderedMap.Basic
/-!
# Laws of ordered maps

What every operation does to the values and to the order of the keys. Two maps are equal if their
keys come in the same order and have the same values.
-/
namespace PropertyFiles.OrderedMap

theorem keys_empty : (empty : OrderedMap κ α).keys = [] := rfl

@[simp] theorem keys_filterKeys (p : κ → Bool) (m : OrderedMap κ α) :
    (m.filterKeys p).keys = m.keys.filter p := by
  simp only [keys, filterKeys, List.filter_map, Function.comp_def]

@[simp] theorem keys_mapValues (f : α → β) (m : OrderedMap κ α) :
    (m.mapValues f).keys = m.keys := by
  simp only [keys, mapValues, List.map_map, Function.comp_def]

theorem mapValues_mapValues (f : α → β) (g : β → γ) (m : OrderedMap κ α) :
    (m.mapValues f).mapValues g = m.mapValues (g ∘ f) := by
  ext1
  simp only [mapValues, List.map_map, Function.comp_def]

@[simp] theorem mapValues_id (m : OrderedMap κ α) : m.mapValues id = m := by
  ext1
  exact List.map_id _

variable [DecidableEq κ]

@[simp] theorem get?_empty (k : κ) : (empty : OrderedMap κ α).get? k = none := rfl

theorem get?_eq_none_iff {m : OrderedMap κ α} {k : κ} : m.get? k = none ↔ k ∉ m.keys := by
  simp only [get?, keys, List.lookup_eq_none_iff, List.mem_map, not_exists, not_and,
    bne_iff_ne, ne_eq]
  exact ⟨fun h e he hk => h e he hk.symm, fun h e he hk => h e he hk.symm⟩

theorem mem_keys_iff {m : OrderedMap κ α} {k : κ} : k ∈ m.keys ↔ (m.get? k).isSome := by
  rw [← Decidable.not_iff_not, ← get?_eq_none_iff, Bool.not_eq_true, Option.isSome_eq_false_iff,
    Option.isNone_iff_eq_none]

@[simp] theorem contains_iff {m : OrderedMap κ α} {k : κ} : m.contains k ↔ k ∈ m.keys := by
  simp [contains]

private theorem lookup_of_mem {k : κ} {v : α} :
    ∀ {entries : List (κ × α)}, (entries.map Prod.fst).Nodup → (k, v) ∈ entries →
      entries.lookup k = some v
  | e :: rest, hn, hm => by
    rw [List.map_cons, List.nodup_cons] at hn
    rw [List.lookup_cons]
    rcases List.mem_cons.1 hm with rfl | hm
    · rw [beq_self_eq_true]
    · have hne : ¬ k = e.1 := fun h => hn.1 (h ▸ List.mem_map_of_mem (f := Prod.fst) hm)
      rw [beq_eq_false_iff_ne.2 hne]
      exact lookup_of_mem hn.2 hm

private theorem mem_of_lookup {k : κ} {v : α} :
    ∀ {entries : List (κ × α)}, entries.lookup k = some v → (k, v) ∈ entries
  | e :: rest, h => by
    rw [List.lookup_cons] at h
    by_cases hk : k = e.1
    · rw [beq_iff_eq.2 hk] at h
      obtain rfl := Option.some.inj h
      exact hk ▸ List.mem_cons_self
    · rw [beq_eq_false_iff_ne.2 hk] at h
      exact List.mem_cons_of_mem _ (mem_of_lookup h)

theorem get?_eq_some_iff {m : OrderedMap κ α} {k : κ} {v : α} :
    m.get? k = some v ↔ (k, v) ∈ m.entries :=
  ⟨mem_of_lookup, lookup_of_mem m.nodup⟩

/-- A key that is there keeps its place; one that is not goes to the end. -/
theorem keys_insert (m : OrderedMap κ α) (k : κ) (v : α) :
    (m.insert k v).keys = if k ∈ m.keys then m.keys else m.keys ++ [k] := by
  unfold insert
  split
  · exact keys_replaceEntry k v m.entries
  · simp only [keys, List.map_append, List.map_cons, List.map_nil]

theorem mem_keys_insert {m : OrderedMap κ α} {k k' : κ} {v : α} :
    k' ∈ (m.insert k v).keys ↔ k' = k ∨ k' ∈ m.keys := by
  rw [keys_insert]
  split
  · rename_i h
    exact ⟨Or.inr, fun h' => h'.elim (fun e => e ▸ h) id⟩
  · rw [List.mem_append, List.mem_singleton, or_comm]

private theorem lookup_replaceEntry (k k' : κ) (v : α) :
    ∀ entries : List (κ × α), (replaceEntry k v entries).lookup k' =
      if k' = k ∧ k ∈ entries.map Prod.fst then some v else entries.lookup k'
  | [] => by simp [replaceEntry]
  | e :: rest => by
    have ih := lookup_replaceEntry k k' v rest
    rw [replaceEntry] at ih ⊢
    rw [List.map_cons, List.lookup_cons, ih]
    by_cases he : e.1 = k
    · by_cases hk : k' = k
      · simp [he, hk]
      · rw [if_pos he, List.lookup_cons, he, beq_eq_false_iff_ne.2 hk]
        simp [hk]
    · by_cases hk : k' = k
      · subst hk
        rw [if_neg he, List.lookup_cons, beq_eq_false_iff_ne.2 (Ne.symm he)]
        simp only [List.map_cons, List.mem_cons, Ne.symm he, false_or]
      · rw [if_neg he, List.lookup_cons]
        simp [hk]

theorem get?_insert (m : OrderedMap κ α) (k k' : κ) (v : α) :
    (m.insert k v).get? k' = if k' = k then some v else m.get? k' := by
  unfold insert
  split
  · rename_i h
    refine (lookup_replaceEntry k k' v m.entries).trans ?_
    simp only [show k ∈ m.entries.map Prod.fst from h, and_true]
    rfl
  · rename_i h
    simp only [get?, List.lookup_append, List.lookup_cons, List.lookup_nil]
    by_cases hk : k' = k
    · subst hk
      have hn : m.entries.lookup k' = none := get?_eq_none_iff.2 h
      simp [hn]
    · simp [hk, beq_eq_false_iff_ne.2 hk]

@[simp] theorem get?_insert_self (m : OrderedMap κ α) (k : κ) (v : α) :
    (m.insert k v).get? k = some v := by
  rw [get?_insert, if_pos rfl]

theorem get?_insert_of_ne (m : OrderedMap κ α) {k k' : κ} (v : α) (h : k' ≠ k) :
    (m.insert k v).get? k' = m.get? k' := by
  rw [get?_insert, if_neg h]

@[simp] theorem keys_erase (m : OrderedMap κ α) (k : κ) :
    (m.erase k).keys = m.keys.filter (· ≠ k) := by
  simp only [keys, erase, List.filter_map, Function.comp_def]

theorem get?_filterKeys (p : κ → Bool) (m : OrderedMap κ α) (k : κ) :
    (m.filterKeys p).get? k = if p k then m.get? k else none := by
  split
  · rename_i hp
    refine Option.ext fun v => ?_
    rw [get?_eq_some_iff, get?_eq_some_iff]
    exact ⟨fun h => (List.mem_filter.1 h).1, fun h => List.mem_filter.2 ⟨h, hp⟩⟩
  · rename_i hp
    rw [get?_eq_none_iff, keys_filterKeys, List.mem_filter]
    exact fun h => hp h.2

theorem erase_eq_filterKeys (m : OrderedMap κ α) (k : κ) :
    m.erase k = m.filterKeys (· ≠ k) := rfl

theorem get?_erase (m : OrderedMap κ α) (k k' : κ) :
    (m.erase k).get? k' = if k' = k then none else m.get? k' := by
  rw [erase_eq_filterKeys, get?_filterKeys]
  by_cases h : k' = k <;> simp [h]

theorem erase_erase (m : OrderedMap κ α) (k : κ) : (m.erase k).erase k = m.erase k := by
  ext1
  simp only [erase, List.filter_filter, Bool.and_self]

theorem get?_mapValues (f : α → β) (m : OrderedMap κ α) (k : κ) :
    (m.mapValues f).get? k = (m.get? k).map f := by
  refine Option.ext fun v => ?_
  rw [get?_eq_some_iff, Option.map_eq_some_iff]
  simp only [mapValues, List.mem_map, Prod.mk.injEq, get?_eq_some_iff]
  constructor
  · rintro ⟨e, he, rfl, rfl⟩
    exact ⟨e.2, he, rfl⟩
  · rintro ⟨a, ha, rfl⟩
    exact ⟨(k, a), ha, rfl, rfl⟩

private theorem entries_eq_of_keys {entries others : List (κ × α)}
    (hk : entries.map Prod.fst = others.map Prod.fst)
    (hv : ∀ k ∈ entries.map Prod.fst, entries.lookup k = others.lookup k)
    (hn : (entries.map Prod.fst).Nodup) : entries = others := by
  induction entries generalizing others with
  | nil => exact (List.map_eq_nil_iff.1 hk.symm).symm
  | cons e rest ih =>
    obtain ⟨k, v⟩ := e
    cases others with
    | nil => simp at hk
    | cons o others =>
      obtain ⟨k', v'⟩ := o
      rw [List.map_cons, List.map_cons, List.cons.injEq] at hk
      obtain ⟨rfl, hk⟩ := hk
      rw [List.map_cons, List.nodup_cons] at hn
      have h := hv k (by simp)
      simp only [List.lookup_cons_self, Option.some.injEq] at h
      subst h
      congr 1
      refine ih hk (fun j hj => ?_) hn.2
      have hne : ¬ j = k := fun h => hn.1 (h ▸ hj)
      have h := hv j (List.mem_cons_of_mem _ hj)
      simpa [List.lookup_cons, beq_eq_false_iff_ne.2 hne] using h

/-- Maps are equal if they have the same keys in the same order and the same values. -/
theorem ext_get? {m n : OrderedMap κ α} (hk : m.keys = n.keys)
    (hv : ∀ k, m.get? k = n.get? k) : m = n :=
  OrderedMap.ext (entries_eq_of_keys hk (fun k _ => hv k) m.nodup)

theorem mem_entries_insert {m : OrderedMap κ α} {k : κ} {v : α} {e : κ × α} :
    e ∈ (m.insert k v).entries ↔ e = (k, v) ∨ e ∈ m.entries ∧ e.1 ≠ k := by
  obtain ⟨j, w⟩ := e
  rw [← get?_eq_some_iff, ← get?_eq_some_iff, get?_insert]
  by_cases hj : j = k
  · simp [hj, eq_comm]
  · simp [hj]

theorem insert_insert (m : OrderedMap κ α) (k : κ) (v w : α) :
    (m.insert k v).insert k w = m.insert k w := by
  apply ext_get?
  · rw [keys_insert, if_pos (mem_keys_insert.2 (Or.inl rfl)), keys_insert, keys_insert]
  · intro j
    by_cases hj : j = k <;> simp [get?_insert, hj]

/-- Inserting the value that a key has changes nothing. -/
theorem insert_of_get? {m : OrderedMap κ α} {k : κ} {v : α} (h : m.get? k = some v) :
    m.insert k v = m := by
  have hk : k ∈ m.keys := mem_keys_iff.2 (by rw [h]; rfl)
  apply ext_get?
  · rw [keys_insert, if_pos hk]
  · intro j
    by_cases hj : j = k
    · rw [hj, get?_insert_self, h]
    · rw [get?_insert_of_ne m v hj]

theorem entries_insertAll_of_nodup (m : OrderedMap κ α) (entries : List (κ × α))
    (h : ((m.entries ++ entries).map Prod.fst).Nodup) :
    (m.insertAll entries).entries = m.entries ++ entries := by
  induction entries generalizing m with
  | nil => exact (List.append_nil _).symm
  | cons e rest ih =>
    have hsplit : m.entries ++ e :: rest = m.entries ++ [e] ++ rest := by
      rw [List.append_assoc, List.cons_append, List.nil_append]
    have hnew : e.1 ∉ m.keys := by
      rw [List.map_append, List.map_cons] at h
      intro hm
      exact (List.nodup_append.1 h).2.2 e.1 hm e.1 List.mem_cons_self rfl
    have hfirst : (m.insert e.1 e.2).entries = m.entries ++ [e] := by
      rw [insert, dif_neg hnew]
    have hrest := ih (m.insert e.1 e.2) (by rw [hfirst, ← hsplit]; exact h)
    rw [hfirst, ← hsplit] at hrest
    exact hrest

@[simp] theorem ofList_entries (m : OrderedMap κ α) : ofList m.entries = m := by
  ext1
  exact entries_insertAll_of_nodup empty m.entries m.nodup

theorem mem_entries_insertAll {m : OrderedMap κ α} {entries : List (κ × α)} {e : κ × α}
    (h : e ∈ (m.insertAll entries).entries) : e ∈ m.entries ∨ e ∈ entries := by
  induction entries generalizing m with
  | nil => exact Or.inl h
  | cons first rest ih =>
    rcases ih (m := m.insert first.1 first.2) h with h | h
    · rcases mem_entries_insert.1 h with rfl | h
      · exact Or.inr List.mem_cons_self
      · exact Or.inl h.1
    · exact Or.inr (List.mem_cons_of_mem _ h)

theorem mem_of_mem_entries_ofList {entries : List (κ × α)} {e : κ × α}
    (h : e ∈ (ofList entries).entries) : e ∈ entries :=
  (mem_entries_insertAll h).resolve_left List.not_mem_nil

theorem mapValues_filterKeys (f : α → β) (p : κ → Bool) (m : OrderedMap κ α) :
    (m.filterKeys p).mapValues f = (m.mapValues f).filterKeys p := by
  apply ext_get?
  · simp only [keys_mapValues, keys_filterKeys]
  · intro j
    rw [get?_mapValues, get?_filterKeys, get?_filterKeys, get?_mapValues]
    split <;> rfl

theorem insertAll_cons (m : OrderedMap κ α) (e : κ × α) (entries : List (κ × α)) :
    m.insertAll (e :: entries) = (m.insert e.1 e.2).insertAll entries := rfl

theorem insertAll_append (m : OrderedMap κ α) (entries more : List (κ × α)) :
    m.insertAll (entries ++ more) = (m.insertAll entries).insertAll more :=
  List.foldl_append

/-- The last value given for a key counts, before the one that it had. -/
theorem get?_insertAll (m : OrderedMap κ α) (entries : List (κ × α)) (k : κ) :
    (m.insertAll entries).get? k = (entries.reverse.lookup k).or (m.get? k) := by
  induction entries generalizing m with
  | nil => rfl
  | cons e rest ih =>
    have hfirst : (m.insert e.1 e.2).get? k = ([e].lookup k).or (m.get? k) := by
      rw [get?_insert, List.lookup_cons]
      by_cases hk : k = e.1
      · simp [hk]
      · simp [hk, beq_eq_false_iff_ne.2 hk]
    rw [insertAll_cons, ih, hfirst, List.reverse_cons, List.lookup_append, Option.or_assoc]

theorem get?_insertAll_of_not_mem (m : OrderedMap κ α) {entries : List (κ × α)} {k : κ}
    (h : k ∉ entries.map Prod.fst) : (m.insertAll entries).get? k = m.get? k := by
  have hnone : entries.reverse.lookup k = none := by
    apply List.lookup_eq_none_iff.2
    intro e he
    have hne : k ≠ e.1 := by
      rintro rfl
      exact h (List.mem_map_of_mem (List.mem_reverse.1 he))
    simpa using hne
  rw [get?_insertAll, hnone, Option.none_or]

theorem get?_insertAll_of_mem (m : OrderedMap κ α) {entries : List (κ × α)} {k : κ} {v : α}
    (hn : (entries.map Prod.fst).Nodup) (h : (k, v) ∈ entries) :
    (m.insertAll entries).get? k = some v := by
  induction entries generalizing m with
  | nil => cases h
  | cons e rest ih =>
    rw [List.map_cons, List.nodup_cons] at hn
    rw [insertAll_cons]
    rcases List.mem_cons.1 h with rfl | h
    · rw [get?_insertAll_of_not_mem _ hn.1, get?_insert_self]
    · exact ih _ hn.2 h

/-- Keys that are new follow in the order in which they first come. -/
theorem keys_insertAll (m : OrderedMap κ α) (entries : List (κ × α)) :
    (m.insertAll entries).keys =
      m.keys ++ ((entries.map Prod.fst).filter (· ∉ m.keys)).eraseDups := by
  induction entries generalizing m with
  | nil => simp [insertAll]
  | cons e rest ih =>
    rw [insertAll_cons, ih, keys_insert, List.map_cons]
    by_cases hk : e.1 ∈ m.keys
    · rw [if_pos hk, List.filter_cons_of_neg (by simpa using hk)]
    · have hrest : (rest.map Prod.fst).filter (· ∉ m.keys ++ [e.1]) =
          ((rest.map Prod.fst).filter (· ∉ m.keys)).filter (fun k => !k == e.1) := by
        rw [List.filter_filter]
        apply List.filter_congr
        intro k _
        by_cases he : k = e.1 <;> simp [he]
      rw [if_neg hk, List.filter_cons_of_pos (by simpa using hk), List.eraseDups_cons, hrest,
        List.append_assoc, List.singleton_append]

theorem eraseDups_of_nodup {ks : List κ} (h : ks.Nodup) : ks.eraseDups = ks := by
  induction ks with
  | nil => rfl
  | cons k rest ih =>
    rw [List.nodup_cons] at h
    have hrest : rest.filter (fun j => !j == k) = rest := by
      apply List.filter_eq_self.2
      intro j hj
      have hne : j ≠ k := by
        rintro rfl
        exact h.1 hj
      simpa using hne
    rw [List.eraseDups_cons, hrest, ih h.2]

/-- Whether doubles are left out of a list before or after others does not matter. -/
theorem eraseDups_filter (p : κ → Bool) :
    ∀ ks : List κ, (ks.filter p).eraseDups = ks.eraseDups.filter p
  | [] => rfl
  | k :: rest => by
    have hrest := eraseDups_filter p (rest.filter fun j => !j == k)
    rw [List.filter_filter] at hrest
    rw [List.eraseDups_cons]
    by_cases hk : p k
    · rw [List.filter_cons_of_pos hk, List.filter_cons_of_pos hk, List.eraseDups_cons, ← hrest,
        List.filter_filter]
      simp only [Bool.and_comm]
    · have hsame : rest.filter p = rest.filter fun j => p j && !j == k := by
        apply List.filter_congr
        intro j _
        by_cases hj : j = k <;> simp [hj, hk]
      rw [List.filter_cons_of_neg hk, List.filter_cons_of_neg hk, hsame, hrest]
termination_by ks => ks.length
decreasing_by exact Nat.lt_succ_of_le (List.length_filter_le _ rest)

theorem eraseDups_append_eq (ks more : List κ) :
    (ks ++ more).eraseDups = ks.eraseDups ++ more.eraseDups.filter (· ∉ ks.eraseDups) := by
  have hnew : more.removeAll ks = more.filter (· ∉ ks.eraseDups) := by
    simp [List.removeAll]
  rw [List.eraseDups_append, hnew, eraseDups_filter]

theorem get?_ofList (entries : List (κ × α)) (k : κ) :
    (ofList entries).get? k = entries.reverse.lookup k := by
  rw [ofList, get?_insertAll, get?_empty, Option.or_none]

/-- What a key has in a list is what its last entry gives it. -/
theorem get?_ofList_eq_some_iff {entries : List (κ × α)} {k : κ} {v : α} :
    (ofList entries).get? k = some v ↔
      ∃ before after, entries = before ++ (k, v) :: after ∧ k ∉ after.map Prod.fst := by
  rw [get?_ofList, List.lookup_eq_some_iff]
  constructor
  · rintro ⟨later, earlier, hreverse, hlater⟩
    refine ⟨earlier.reverse, later.reverse, ?_, ?_⟩
    · rw [← List.reverse_reverse entries, hreverse]
      simp
    · intro hk
      obtain ⟨e, he, rfl⟩ := List.mem_map.1 hk
      exact bne_iff_ne.1 (hlater e (List.mem_reverse.1 he)) rfl
  · rintro ⟨before, after, rfl, hafter⟩
    refine ⟨after.reverse, before.reverse, by simp, ?_⟩
    intro e he
    apply bne_iff_ne.2
    rintro rfl
    exact hafter (List.mem_map_of_mem (List.mem_reverse.1 he))

theorem keys_ofList (entries : List (κ × α)) :
    (ofList entries).keys = (entries.map Prod.fst).eraseDups := by
  have hall : (entries.map Prod.fst).filter (· ∉ (empty : OrderedMap κ α).keys) =
      entries.map Prod.fst := by
    simp [keys_empty]
  rw [ofList, keys_insertAll, hall, keys_empty, List.nil_append]

private theorem lookup_filterMap (ks : List κ) (f : κ → Option α) (k : κ) :
    (ks.filterMap fun k => (f k).map (k, ·)).lookup k = if k ∈ ks then f k else none := by
  induction ks with
  | nil => rfl
  | cons j rest ih =>
    by_cases hk : k = j
    · subst hk
      cases hf : f k with
      | some v => simp [hf]
      | none => simp [hf, ih]
    · cases hf : f j with
      | some v => simp [hf, List.lookup_cons, beq_eq_false_iff_ne.2 hk, ih, hk]
      | none => simp [hf, ih, hk]

/-- A map that is read off a list of keys, some of which have no value. -/
theorem get?_ofList_filterMap (ks : List κ) (f : κ → Option α) (k : κ) :
    (ofList (ks.filterMap fun k => (f k).map (k, ·))).get? k = if k ∈ ks then f k else none := by
  rw [get?_ofList, ← List.filterMap_reverse, lookup_filterMap]
  simp only [List.mem_reverse]

theorem keys_ofList_filterMap (ks : List κ) (f : κ → Option α) :
    (ofList (ks.filterMap fun k => (f k).map (k, ·))).keys =
      (ks.filter fun k => (f k).isSome).eraseDups := by
  rw [keys_ofList]
  congr 1
  induction ks with
  | nil => rfl
  | cons k rest ih => cases hf : f k <;> simp [hf, ih]

theorem foldl_erase (m : OrderedMap κ α) (ks : List κ) :
    ks.foldl erase m = m.filterKeys (· ∉ ks) := by
  induction ks generalizing m with
  | nil =>
    ext1
    exact (List.filter_eq_self.2 (by simp)).symm
  | cons k rest ih =>
    ext1
    rw [List.foldl_cons, ih]
    simp only [erase, filterKeys, List.filter_filter]
    apply List.filter_congr
    intro e _
    simp [Bool.and_comm]

end PropertyFiles.OrderedMap
