/-!
# Ordered maps

A finite map that remembers the order in which its keys came in. A key keeps its place when its
value is replaced; a new key goes to the end.
-/
namespace PropertyFiles

/-- Entries in order, no key twice. -/
@[ext]
structure OrderedMap (κ : Type u) (α : Type v) where
  entries : List (κ × α)
  nodup : (entries.map Prod.fst).Nodup

namespace OrderedMap

instance [DecidableEq κ] [DecidableEq α] : DecidableEq (OrderedMap κ α) := fun m n =>
  decidable_of_iff (m.entries = n.entries) OrderedMap.ext_iff.symm

def empty : OrderedMap κ α :=
  ⟨[], List.nodup_nil⟩

instance : EmptyCollection (OrderedMap κ α) := ⟨empty⟩

instance : Inhabited (OrderedMap κ α) := ⟨empty⟩

def keys (m : OrderedMap κ α) : List κ :=
  m.entries.map Prod.fst

def size (m : OrderedMap κ α) : Nat :=
  m.entries.length

theorem nodup_keys (m : OrderedMap κ α) : m.keys.Nodup :=
  m.nodup

section Keyed
variable [DecidableEq κ]

def get? (m : OrderedMap κ α) (k : κ) : Option α :=
  m.entries.lookup k

def contains (m : OrderedMap κ α) (k : κ) : Bool :=
  decide (k ∈ m.keys)

def replaceEntry (k : κ) (v : α) (entries : List (κ × α)) : List (κ × α) :=
  entries.map fun e => if e.1 = k then (k, v) else e

theorem keys_replaceEntry (k : κ) (v : α) (entries : List (κ × α)) :
    (replaceEntry k v entries).map Prod.fst = entries.map Prod.fst := by
  simp only [replaceEntry, List.map_map, List.map_inj_left, Function.comp_apply]
  intro e _
  split <;> simp_all

/-- The map with `v` at `k`: in place if `k` is a key, else at the end. -/
def insert (m : OrderedMap κ α) (k : κ) (v : α) : OrderedMap κ α :=
  if h : k ∈ m.keys then
    ⟨replaceEntry k v m.entries, by rw [keys_replaceEntry]; exact m.nodup⟩
  else
    ⟨m.entries ++ [(k, v)], by
      rw [List.map_append]
      refine List.nodup_append.2 ⟨m.nodup, by simp, ?_⟩
      intro a ha b hb
      simp only [List.map_cons, List.map_nil, List.mem_singleton] at hb
      subst hb
      exact fun hab => h (hab ▸ ha)⟩

def erase (m : OrderedMap κ α) (k : κ) : OrderedMap κ α :=
  ⟨m.entries.filter fun e => e.1 ≠ k,
    (List.filter_sublist.map Prod.fst).nodup m.nodup⟩

/-- The map with the entries of a list put in one after another: a key that comes again keeps its
place and takes the later value. -/
def insertAll (m : OrderedMap κ α) (entries : List (κ × α)) : OrderedMap κ α :=
  entries.foldl (fun m e => m.insert e.1 e.2) m

def ofList (entries : List (κ × α)) : OrderedMap κ α :=
  empty.insertAll entries

end Keyed

def filterKeys (p : κ → Bool) (m : OrderedMap κ α) : OrderedMap κ α :=
  ⟨m.entries.filter fun e => p e.1, (List.filter_sublist.map Prod.fst).nodup m.nodup⟩

def mapValues (f : α → β) (m : OrderedMap κ α) : OrderedMap κ β :=
  ⟨m.entries.map fun e => (e.1, f e.2), by
    simpa only [List.map_map, Function.comp_def] using m.nodup⟩

end OrderedMap
end PropertyFiles
