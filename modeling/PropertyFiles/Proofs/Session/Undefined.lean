import PropertyFiles.Proofs.Session.Configuring
/-!
# Undefined values in saved files

A property can be there without a value, and then looks as if it were not defined. Saving does not
refuse it but writes a text in place of the value, so it is defined when the file is loaded. Every
other property is looked up in the loaded store as in the one that was saved.
-/
namespace PropertyFiles

namespace Store

private theorem get?_reloaded {store : Store} (hwhole : Document.unencodable? store.properties = none)
    (key : String) : store.reloaded.get? key =
      if store.contains key then some ((store.get? key).getD Document.undefinedText) else none := by
  have hcontains := @contains_iff store key
  rw [get?, get?, OrderedMap.value?, OrderedMap.value?, get?_properties_reloaded hwhole]
  cases hget : store.properties.get? key with
  | none =>
    rw [hget] at hcontains
    simp [hcontains]
  | some value =>
    rw [hget] at hcontains
    rw [if_pos (hcontains.2 rfl)]
    rfl

/-- A property that is there without a value. -/
def IsUndefined (store : Store) (key : String) : Prop :=
  store.contains key ∧ store.get? key = none

private theorem isUndefined_iff {store : Store} {key : String} :
    store.IsUndefined key ↔ store.properties.get? key = some none := by
  rw [IsUndefined, contains_iff, get?, OrderedMap.value?]
  cases store.properties.get? key with
  | none => simp
  | some value => simp

end Store

namespace Session

private theorem perform_get {session : Session} {name : String} {store : Store}
    (hstore : session.stores.get? name = some store) (key : String) :
    (session.perform name (.get key)).reply = .ok (.value (store.get? key)) := by
  simp only [perform, withStore, hstore, answer]

/-- After a save that succeeds the file loads, and every key that was there has a value: its own, or
the text written for a value that is missing. A lookup answers as in the store that was saved exactly
for the keys that were not there without a value. -/
theorem get_after_save_and_load {session : Session} {name : String} {store : Store}
    (hstore : session.stores.get? name = some store)
    (hsaved : (session.perform name .save).reply.isOk) (reader : String) :
    let saved := (session.perform name .save).session
    let loaded := saved.perform reader (.load store.folder store.kind.name)
    loaded.reply = .ok (.flag true) ∧
      ∀ key,
        let before := (saved.perform name (.get key)).reply
        let after := (loaded.session.perform reader (.get key)).reply
        after = .ok (.value (if store.contains key then
          some ((store.get? key).getD Document.undefinedText) else none)) ∧
        (after = before ↔ ¬ store.IsUndefined key) := by
  obtain ⟨tree, notices, hsave, hsession⟩ := perform_save_of_isOk hstore hsaved
  rw [hsession]
  intro saved loaded
  obtain ⟨hreply, hloaded⟩ := perform_load saved reader (Store.load_of_save hsave)
  refine ⟨hreply, ?_⟩
  intro key before after
  have hreader : loaded.session.stores.get? reader = some store.reloaded := by
    rw [show loaded.session = _ from hloaded, get?_keep]
  have hbefore : before = .ok (.value (store.get? key)) :=
    perform_get (show saved.stores.get? name = some store from hstore) key
  have hafter : after = .ok (.value (store.reloaded.get? key)) := perform_get hreader key
  have hwhole := (Store.save_eq_ok_iff.1 hsave).2.1
  rw [hbefore, hafter, Store.isUndefined_iff, ← Ne, ← Store.get?_reloaded_eq_iff hwhole]
  refine ⟨by rw [Store.get?_reloaded hwhole], ?_⟩
  simp

theorem get_after_save_and_load_of_mixed :
    let store : Store := ⟨"", .default, .ofList [("k", none), ("v", some "x ")]⟩
    let session : Session := ⟨FileTree.emptyAt "work", .ofList [("a", store)]⟩
    let saved := (session.perform "a" .save).session
    let loaded := (saved.perform "a" (.load "" Kind.default.name)).session
    session.stores.get? "a" = some store ∧ (session.perform "a" .save).reply.isOk ∧
      (loaded.perform "a" (.get "k")).reply ≠ (saved.perform "a" (.get "k")).reply ∧
      (loaded.perform "a" (.get "v")).reply = (saved.perform "a" (.get "v")).reply := by
  intro store session saved loaded
  have hstore : session.stores.get? "a" = some store := rfl
  have hsaved : (session.perform "a" .save).reply.isOk := by decide +kernel
  have hlookup := (get_after_save_and_load hstore hsaved "a").2
  refine ⟨hstore, hsaved, ?_, ?_⟩
  · rw [Ne, (hlookup "k").2, not_not]
    exact ⟨rfl, rfl⟩
  · rw [(hlookup "v").2]
    rintro ⟨_, hnone⟩
    revert hnone
    decide

/-- A property that was set to no value is saved all the same, and loads with one. -/
theorem undefined_value_defined_by_saving :
    let created := ((start (FileTree.emptyAt "work")).perform "a"
      (.create "" Kind.default.name)).session
    let set := (created.perform "a" (.set "k" none)).session
    let saved := (set.perform "a" .save).session
    let loaded := (saved.perform "a" (.load "" Kind.default.name)).session
    (set.perform "a" .save).reply.isOk ∧
      (saved.stores.get? "a").map (·.get? "k") = some none ∧
      (loaded.stores.get? "a").map (·.get? "k") = some (some ↑"None") := by
  intro created set saved loaded
  have hstore : set.stores.get? "a" = some ⟨"", .default, .ofList [("k", none)]⟩ := rfl
  have hsaved : (set.perform "a" .save).reply.isOk := by decide +kernel
  obtain ⟨tree, notices, hsave, hsession⟩ := perform_save_of_isOk hstore hsaved
  have hload := Store.load_of_save hsave
  have hloaded : loaded = saved.keep "a" (Store.reloaded ⟨"", .default, .ofList [("k", none)]⟩) := by
    apply (perform_load saved "a" _).2
    rw [show saved = _ from hsession]
    exact hload
  have hkept : saved.stores = set.stores := by
    rw [show saved = _ from hsession]
  refine ⟨hsaved, ?_, ?_⟩
  · rw [hkept, hstore]
    decide
  · rw [hloaded, get?_keep]
    decide

end Session
end PropertyFiles
