import PropertyFiles.Proofs.Session.Effect
import PropertyFiles.Proofs.Session.Refusal
import PropertyFiles.Proofs.Store.Merging
/-!
# Sequences of merges in a session

Merging files into a store of a session, one after another, changes that store and nothing else. The
first definition of a key counts; what was read before, or cannot be read, adds nothing.
-/
namespace PropertyFiles

namespace Session

def mergeAll (session : Session) (name : String) (kinds : List Kind) : Session :=
  kinds.foldl (fun session kind => (session.perform name (.merge kind.name)).session) session

private theorem perform_merge {session : Session} {name : String} {store : Store}
    (hstore : session.stores.get? name = some store) (kind : Kind) :
    (session.perform name (.merge kind.name)).session =
      session.keep name (store.merge session.tree kind).1 := by
  simp only [perform, withStore, hstore, withKind, Kind.ofName?_name]

private theorem mergeAll_eq_keep {session : Session} {name : String} {store : Store}
    (hstore : session.stores.get? name = some store) (kinds : List Kind) :
    session.mergeAll name kinds = session.keep name (store.mergeAll session.tree kinds) := by
  induction kinds generalizing session store with
  | nil => exact (keep_of_get? hstore).symm
  | cons kind rest ih =>
    have hmerged : (session.keep name (store.merge session.tree kind).1).stores.get? name =
        some (store.merge session.tree kind).1 := get?_keep session name _
    rw [mergeAll, List.foldl_cons, perform_merge hstore]
    refine (ih hmerged).trans ?_
    rw [keep, keep, OrderedMap.insert_insert]
    rfl

private theorem perform_merge_of_load (session : Session) (folder : String) (kind : Kind)
    (reader : String) :
    let loaded := (session.perform reader (.load folder kind.name)).session
    (loaded.perform reader (.merge kind.name)).session = loaded := by
  intro loaded
  cases hproject : (session.tree.loadProject folder kind).1 with
  | some properties =>
    have hload := Store.load_eq_some_iff.2 ⟨properties, hproject, rfl⟩
    have hloaded : loaded = session.keep reader ⟨folder, kind, properties.raw.mapValues some⟩ :=
      (perform_load session reader hload).2
    have hstore : loaded.stores.get? reader =
        some ⟨folder, kind, properties.raw.mapValues some⟩ := by
      rw [hloaded, get?_keep]
    have htree : loaded.tree = session.tree := by
      rw [hloaded, keep]
    rw [perform_merge hstore, htree, Store.merge_of_load hload, keep_of_get? hstore]
  | none =>
    have hloaded : loaded = { session with stores := session.stores.erase reader } :=
      (perform_load_of_unreadable (FileTree.unreadable_of_loadProject hproject) reader).2
    have hnone : loaded.stores.get? reader = none := by
      rw [hloaded, OrderedMap.get?_erase, if_pos rfl]
    simp only [perform, withStore, hnone, answer]

/-- A sequence of merges gives every key its first definition. The store's own value comes first, then
the files in the order of the merges, and in one file the last definition; the keys of the store keep
their order, followed by those new at each merge. A file that cannot be read, or was merged before,
may be left out, and so may that of a store that was just loaded. The files and all other stores stay
as they are. -/
theorem merges_take_first_definition {session : Session} {name : String} {store : Store}
    (hstore : session.stores.get? name = some store) (kinds : List Kind) :
    let definitions := session.tree.definitions store.folder
    let after := session.mergeAll name kinds
    (∃ merged, after.stores.get? name = some merged ∧
      (∀ key, merged.get? key = (store.get? key).or
        ((kinds.findSome? fun kind => Document.lastValue? (definitions kind) key).map
          RawText.ofString)) ∧
      merged.properties.keys = kinds.foldl (fun keys kind =>
        keys ++ (Document.definedKeys (definitions kind)).filter (· ∉ keys))
        store.properties.keys) ∧
    (∀ kind, session.tree.Unreadable store.folder kind → definitions kind = []) ∧
    (∀ before kind rest, kinds = before ++ kind :: rest →
      session.tree.Unreadable store.folder kind ∨ kind ∈ before →
        after = session.mergeAll name (before ++ rest)) ∧
    (∀ folder (kind : Kind) reader,
      let loaded := (session.perform reader (.load folder kind.name)).session
      (loaded.perform reader (.merge kind.name)).session = loaded) ∧
    after.tree = session.tree ∧
      ∀ other, other ≠ name → after.stores.get? other = session.stores.get? other := by
  intro definitions after
  have hafter : after = session.keep name (store.mergeAll session.tree kinds) :=
    mergeAll_eq_keep hstore kinds
  refine ⟨⟨store.mergeAll session.tree kinds, ?_, ?_, ?_⟩, ?_, ?_, ?_, ?_, ?_⟩
  · rw [hafter, get?_keep]
  · exact Store.get?_mergeAll session.tree store kinds
  · exact Store.keys_mergeAll session.tree store kinds
  · intro kind hunreadable
    exact FileTree.definitions_of_unreadable hunreadable
  · intro before kind rest hkinds h
    rw [hafter, mergeAll_eq_keep hstore, hkinds, Store.mergeAll_drop h]
  · intro folder kind reader loaded
    exact perform_merge_of_load session folder kind reader
  · rw [hafter, keep]
  · intro other hother
    rw [hafter, keep, OrderedMap.get?_insert_of_ne _ _ hother]

theorem merges_take_first_definition_of_files :
    let tree := (((FileTree.emptyAt "work").place (Path.ofString "default.properties")
      (.file "b=1\na=2\nb=3\n".toUTF8)).place (Path.ofString "build.properties")
      (.file "a=9\nc=4".toUTF8)).place (Path.ofString "local.properties") (.file "oops".toUTF8)
    let store : Store := ⟨"", .machine, .ofList [("c", none), ("d", some "0")]⟩
    let session : Session := ⟨tree, .ofList [("s", store)]⟩
    let kinds := [.machine, .default, .build, .default]
    session.stores.get? "s" = some store ∧
      ∃ merged, (session.mergeAll "s" kinds).stores.get? "s" = some merged ∧
        merged.get? "a" = some ↑"2" ∧ merged.get? "b" = some ↑"3" ∧ merged.get? "c" = some ↑"4" ∧
        merged.properties.keys = ["c", "d", "b", "a"] := by
  intro tree store session kinds
  have hstore : session.stores.get? "s" = some store := rfl
  obtain ⟨⟨merged, hmerged, hvalue, hkeys⟩, _⟩ := merges_take_first_definition hstore kinds
  refine ⟨hstore, merged, hmerged, ?_, ?_, ?_, ?_⟩
  · rw [hvalue]
    decide +kernel
  · rw [hvalue]
    decide +kernel
  · rw [hvalue]
    decide +kernel
  · rw [hkeys]
    decide +kernel

end Session
end PropertyFiles
