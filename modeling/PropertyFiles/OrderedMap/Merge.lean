import PropertyFiles.OrderedMap.Basic
/-!
# Merging without overriding

The first definition of a key wins: a merge fills in the keys that are absent or undefined and
leaves every other key alone. A key that is mapped to no value counts as undefined, but keeps its
place.
-/
namespace PropertyFiles.OrderedMap

def definedEntries : List (κ × Option α) → List (κ × α)
  | [] => []
  | (k, some v) :: rest => (k, v) :: definedEntries rest
  | (_, none) :: rest => definedEntries rest

theorem keys_definedEntries_sublist (entries : List (κ × Option α)) :
    ((definedEntries entries).map Prod.fst).Sublist (entries.map Prod.fst) := by
  induction entries with
  | nil => exact List.Sublist.slnil
  | cons e rest ih =>
    obtain ⟨k, _ | v⟩ := e
    · exact ih.cons k
    · exact ih.cons_cons k

def defined (m : OrderedMap κ (Option α)) : OrderedMap κ α :=
  ⟨definedEntries m.entries, (keys_definedEntries_sublist m.entries).nodup m.nodup⟩

theorem keys_defined (m : OrderedMap κ (Option α)) :
    m.defined.keys = (m.entries.filter (·.2.isSome)).map Prod.fst := by
  change (definedEntries m.entries).map Prod.fst = _
  induction m.entries with
  | nil => rfl
  | cons e rest ih =>
    obtain ⟨k, _ | v⟩ := e
    · simpa [definedEntries] using ih
    · simpa [definedEntries] using ih

variable [DecidableEq κ]

def value? (m : OrderedMap κ (Option α)) (k : κ) : Option α :=
  (m.get? k).join

/-- A map after a merge, with the keys that the merge gave a value. -/
structure Merged (κ : Type u) (α : Type v) where
  added : List κ
  map : OrderedMap κ (Option α)

/-- One entry of the incoming map taken over, if it has a value and its key has none yet. -/
def Merged.take (merged : Merged κ α) (entry : κ × Option α) : Merged κ α :=
  match entry.2 with
  | none => merged
  | some v =>
    if (merged.map.value? entry.1).isNone then
      ⟨merged.added ++ [entry.1], merged.map.insert entry.1 (some v)⟩
    else merged

def mergeMissing (target incoming : OrderedMap κ (Option α)) : Merged κ α :=
  incoming.entries.foldl Merged.take ⟨[], target⟩

end PropertyFiles.OrderedMap
