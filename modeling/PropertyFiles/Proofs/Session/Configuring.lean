import PropertyFiles.Proofs.Session.Merging
import PropertyFiles.Proofs.Store.Configurations
/-!
# Configurations in a session

Configurations that were set are found again, in their order, also after saving and loading. As long
as they are only ever set as a whole, the list and the properties of configurations agree in every
state that a store can come to, whatever else is done to it and to the rest of the session.
-/
namespace PropertyFiles

namespace Session

private theorem perform_configurations {session : Session} {name : String} {store : Store}
    (hstore : session.stores.get? name = some store) :
    (session.perform name .configurations).reply =
      .ok (.properties (store.configurations.mapValues some)) := by
  simp only [perform, withStore, hstore, answer]

private theorem perform_setConfigurations {session : Session} {name : String} {store : Store}
    (hstore : session.stores.get? name = some store) {configurations : Properties}
    (hnames : ∀ name ∈ configurations.keys, isKey name) :
    (session.perform name (.setConfigurations configurations)).reply = .ok .done ∧
      (session.perform name (.setConfigurations configurations)).session =
        session.keep name (store.withConfigurations configurations) := by
  have hset : store.setConfigurations configurations =
      .ok (store.withConfigurations configurations) :=
    Store.setConfigurations_eq_ok_iff.2 ⟨hnames, rfl⟩
  simp only [perform, withStore, hstore, hset, replace, answer, and_self]

/-- Setting configurations with valid names succeeds, whatever the store held before, and then exactly
these are found, in their order. If the store can be saved, it loads under any name, and there the
same configurations are found. -/
theorem configurations_of_setConfigurations {session : Session} {name : String} {store : Store}
    (hstore : session.stores.get? name = some store) {configurations : OrderedMap String RawText}
    (hnames : ∀ name ∈ configurations.keys, isKey name) :
    let set := session.perform name (.setConfigurations (configurations.mapValues some))
    let saved := set.session.perform name .save
    let found := Reply.properties (configurations.mapValues some)
    set.reply = .ok .done ∧
      (set.session.perform name .configurations).reply = .ok found ∧
      (saved.reply.isOk → ∀ reader,
        let loaded := saved.session.perform reader (.load store.folder store.kind.name)
        loaded.reply = .ok (.flag true) ∧
          (loaded.session.perform reader .configurations).reply = .ok found) := by
  intro set saved found
  have hkeys : ∀ name ∈ (configurations.mapValues some).keys, isKey name := by
    rwa [OrderedMap.keys_mapValues]
  obtain ⟨hreply, hsession⟩ := perform_setConfigurations hstore hkeys
  have hset : set.session.stores.get? name =
      some (store.withConfigurations (configurations.mapValues some)) := by
    rw [show set.session = _ from hsession, get?_keep]
  refine ⟨hreply, ?_, ?_⟩
  · rw [perform_configurations hset, Store.configurations_withConfigurations store hnames]
  · intro hsaved reader loaded
    obtain ⟨after, notices, hsave, hafter⟩ := perform_save_of_isOk hset hsaved
    have hload := Store.load_of_save hsave
    rw [Store.folder_withConfigurations, Store.kind_withConfigurations] at hload
    have hperform : loaded = ({ set.session with tree := after } : Session).perform reader
        (.load store.folder store.kind.name) := by
      simp only [loaded, saved, hafter]
    obtain ⟨hflag, hloaded⟩ := perform_load { set.session with tree := after } reader hload
    rw [← hperform] at hflag hloaded
    have hreader : loaded.session.stores.get? reader =
        some (store.withConfigurations (configurations.mapValues some)).reloaded := by
      rw [hloaded, get?_keep]
    refine ⟨hflag, ?_⟩
    rw [perform_configurations hreader,
      Store.configurations_reloaded_withConfigurations store hnames (Store.save_eq_ok_iff.1 hsave).2.1]

theorem configurations_of_setConfigurations_of_stray :
    let store : Store := ⟨"", .default, .ofList
      [("apk-config-b", some "stray"), ("apk-configurations", some " a,,b c, a"),
        ("apk-config-a", none), ("x", none)]⟩
    let session : Session := ⟨FileTree.emptyAt "work", .ofList [("s", store)]⟩
    let configurations : OrderedMap String RawText := .ofList [("b", "de"), ("a.1", "")]
    let set := session.perform "s" (.setConfigurations (configurations.mapValues some))
    let saved := set.session.perform "s" .save
    session.stores.get? "s" = some store ∧
      (∀ name ∈ configurations.keys, isKey name) ∧ saved.reply.isOk ∧
      ((saved.session.perform "t" (.load "" Kind.default.name)).session.perform "t"
        .configurations).reply = .ok (.properties (configurations.mapValues some)) := by
  intro store session configurations set saved
  have hstore : session.stores.get? "s" = some store := rfl
  have hnames : ∀ name ∈ configurations.keys, isKey name := by decide
  have hsaved : saved.reply.isOk := by decide +kernel
  obtain ⟨_, _, hload⟩ := configurations_of_setConfigurations hstore hnames
  exact ⟨hstore, hnames, hsaved, (hload hsaved "t").2⟩

end Session

/-- Whether an action leaves the configurations of a store alone or sets them as a whole. -/
def Action.SparesConfigurations : Action → Prop
  | .set key _ => ¬ WellKnown.IsOfConfigurations key
  | .remove key => ¬ WellKnown.IsOfConfigurations key
  | .load _ _ | .create _ _ | .merge _ => False
  | _ => True

namespace Session

/-- The sessions that runs from the creation of a store lead to, each with the bytes that its last
successful save has left. The store may be loaded only as long as its file still holds these. -/
inductive Maintained (name folder : String) (kind : Kind) : Session → Option ByteArray → Prop
  | create (session : Session) :
    Maintained name folder kind (session.perform name (.create folder kind.name)).session none
  | change {session : Session} {saved : Option ByteArray} {action : Action} :
    Maintained name folder kind session saved → action.SparesConfigurations →
      Maintained name folder kind (session.perform name action).session saved
  | save {session : Session} {saved : Option ByteArray} {bytes : ByteArray} :
    Maintained name folder kind session saved → (session.perform name .save).reply.isOk →
      (session.perform name .save).session.tree.find?
        ((Path.ofString folder).child kind.fileName) = some (.file bytes) →
      Maintained name folder kind (session.perform name .save).session (some bytes)
  | load {session : Session} {bytes : ByteArray} :
    Maintained name folder kind session (some bytes) →
      session.tree.find? ((Path.ofString folder).child kind.fileName) = some (.file bytes) →
      Maintained name folder kind (session.perform name (.load folder kind.name)).session
        (some bytes)
  /-- Other stores and any files may change. -/
  | elsewhere {session after : Session} {saved : Option ByteArray} :
    Maintained name folder kind session saved →
      after.stores.get? name = session.stores.get? name →
      Maintained name folder kind after saved

/-- A consistent store of the project's file. -/
structure Keeper (folder : String) (kind : Kind) (store : Store) : Prop where
  folder : store.folder = folder
  kind : store.kind = kind
  consistent : store.Consistent

/-- What every run maintains: the store is consistent, and so was the one whose text was saved. -/
structure Holding (name folder : String) (kind : Kind) (session : Session)
    (saved : Option ByteArray) : Prop where
  store : ∃ store, session.stores.get? name = some store ∧ Keeper folder kind store
  file : ∀ bytes, saved = some bytes → ∃ written, Keeper folder kind written ∧
    Document.fault? written.properties = none ∧
    Document.unencodable? written.properties = none ∧ bytes = written.text.toUTF8

section Steps
variable {name folder : String} {kind : Kind} {session : Session} {store : Store}

theorem Keeper.edited (h : Keeper folder kind store) {action : Action}
    (haction : action.SparesConfigurations) (tree : FileTree) :
    Keeper folder kind (store.edited tree action) := by
  obtain ⟨hfolder, hkind⟩ := store.folder_kind_edited tree action
  refine ⟨hfolder.trans h.folder, hkind.trans h.kind, ?_⟩
  cases action with
  | load _ _ => cases haction
  | create _ _ => cases haction
  | merge _ => cases haction
  | set key value => exact h.consistent.set haction value
  | remove key => exact h.consistent.remove haction
  | setTarget hash =>
    rcases store.edited_setTarget tree hash with hsame | hset
    · rw [hsame]
      exact h.consistent
    · rw [hset]
      exact h.consistent.set (by decide) _
  | setConfigurations configurations =>
    rcases store.edited_setConfigurations tree configurations with hsame | ⟨hnames, hset⟩
    · rw [hsame]
      exact h.consistent
    · rw [hset]
      exact h.consistent.withConfigurations hnames
  | _ => exact h.consistent

private theorem keeper_perform (hstore : session.stores.get? name = some store)
    (h : Keeper folder kind store) {action : Action} (haction : action.SparesConfigurations) :
    ∃ after, (session.perform name action).session.stores.get? name = some after ∧
      Keeper folder kind after := by
  have hopens : ¬ action.Opens := Action.not_opens_of haction (fun _ _ => id) fun _ _ => id
  rcases get?_perform hstore hopens with hsame | hedited
  · exact ⟨store, hsame, h⟩
  · exact ⟨store.edited session.tree action, hedited, h.edited haction session.tree⟩

private theorem path_of_keeper (h : Keeper folder kind store) :
    store.path = (Path.ofString folder).child kind.fileName := by
  rw [Store.path, Store.folderPath, h.folder, h.kind]

private theorem exists_text_of_perform_save (hstore : session.stores.get? name = some store)
    (h : Keeper folder kind store) {bytes : ByteArray}
    (hsaved : (session.perform name .save).reply.isOk)
    (hfile : (session.perform name .save).session.tree.find?
      ((Path.ofString folder).child kind.fileName) = some (.file bytes)) :
    Document.fault? store.properties = none ∧ Document.unencodable? store.properties = none ∧
      bytes = store.text.toUTF8 := by
  obtain ⟨after, notices, hsave, hsession⟩ := perform_save_of_isOk hstore hsaved
  obtain ⟨⟨hfault, hnul, hwrite⟩, hwhole, _⟩ := Store.save_eq_ok_iff.1 hsave
  have htext := FileTree.find?_of_writeFile_self hwrite hnul
  rw [hsession, ← path_of_keeper h, htext] at hfile
  refine ⟨hfault, hwhole, ?_⟩
  cases hfile
  rfl

private theorem keeper_perform_load (h : Keeper folder kind store)
    (hfault : Document.fault? store.properties = none)
    (hwhole : Document.unencodable? store.properties = none)
    (hfile : session.tree.find? ((Path.ofString folder).child kind.fileName) =
      some (.file store.text.toUTF8)) :
    (session.perform name (.load folder kind.name)).session.stores.get? name =
        some store.reloaded ∧ Keeper folder kind store.reloaded := by
  have hload : (Store.load session.tree folder kind).1 = some store.reloaded := by
    rw [← path_of_keeper h] at hfile
    rw [← h.folder, ← h.kind]
    exact Store.load_of_text hfault hfile
  refine ⟨?_, h.folder, h.kind, h.consistent.reloaded hwhole⟩
  rw [(perform_load session name hload).2, get?_keep]

end Steps

private theorem holding_of_maintained {name folder : String} {kind : Kind} {session : Session}
    {saved : Option ByteArray} (h : Maintained name folder kind session saved) :
    Holding name folder kind session saved := by
  induction h with
  | create session =>
    have hcreate : (session.perform name (.create folder kind.name)).session =
        session.keep name (Store.create folder kind) := by
      simp only [perform, withKind, Kind.ofName?_name, answer]
    constructor
    · refine ⟨Store.create folder kind, ?_, rfl, rfl, Store.consistent_create folder kind⟩
      rw [hcreate, get?_keep]
    · intro bytes hbytes
      cases hbytes
  | change _ haction ih =>
    obtain ⟨store, hstore, hkeeper⟩ := ih.store
    exact ⟨keeper_perform hstore hkeeper haction, ih.file⟩
  | save _ hsaved hfile ih =>
    obtain ⟨store, hstore, hkeeper⟩ := ih.store
    obtain ⟨hfault, hwhole, rfl⟩ := exists_text_of_perform_save hstore hkeeper hsaved hfile
    refine ⟨keeper_perform hstore hkeeper trivial, ?_⟩
    intro bytes hbytes
    exact ⟨store, hkeeper, hfault, hwhole, (Option.some.inj hbytes).symm⟩
  | load _ hfile ih =>
    obtain ⟨written, hkeeper, hfault, hwhole, rfl⟩ := ih.file _ rfl
    exact ⟨⟨written.reloaded, keeper_perform_load hkeeper hfault hwhole hfile⟩, ih.file⟩
  | elsewhere _ hsame ih =>
    obtain ⟨store, hstore, hkeeper⟩ := ih.store
    exact ⟨⟨store, hsame.trans hstore, hkeeper⟩, ih.file⟩

/-- The list and the properties of configurations never drift apart: in every state of every run, a
configuration has its property exactly if its name is in the list. -/
theorem configurations_agree_of_maintained {name folder : String} {kind : Kind}
    {session : Session} {saved : Option ByteArray}
    (h : Maintained name folder kind session saved) :
    ∃ store, session.stores.get? name = some store ∧
      ∀ configuration, store.contains (WellKnown.configurationKey configuration) ↔
        configuration ∈ store.configurationNames := by
  obtain ⟨store, hstore, hkeeper⟩ := (holding_of_maintained h).store
  exact ⟨store, hstore, hkeeper.consistent.agrees⟩

theorem configurations_agree_of_maintained_of_run :
    let created := ((start (FileTree.emptyAt "work")).perform "s"
      (.create "" Kind.default.name)).session
    let set := (created.perform "s"
      (.setConfigurations (.ofList [("a", some "x"), ("b", none), ("c", some "z")]))).session
    let changed := (set.perform "s" (.set "note" none)).session
    let saved := (changed.perform "s" .save).session
    let loaded := (saved.perform "s" (.load "" Kind.default.name)).session
    let refused := (loaded.perform "s" (.setConfigurations (.ofList [("d e", some "")]))).session
    let fewer := (refused.perform "s" (.setConfigurations (.ofList [("b", some "y")]))).session
    ∃ bytes, Maintained "s" "" .default fewer (some bytes) ∧
      ∃ store, fewer.stores.get? "s" = some store ∧
        ∀ configuration, store.contains (WellKnown.configurationKey configuration) ↔
          configuration ∈ store.configurationNames := by
  intro created set changed saved loaded refused fewer
  have hnote : ¬ WellKnown.IsOfConfigurations "note" := by decide
  have hcreated : Maintained "s" "" .default created none := Maintained.create _
  have hset : Maintained "s" "" .default set none := Maintained.change hcreated trivial
  have hchanged : Maintained "s" "" .default changed none := Maintained.change hset hnote
  have hfile : saved.tree.isFile ((Path.ofString "").child Kind.default.fileName) := by
    decide +kernel
  obtain ⟨bytes, hbytes⟩ := FileTree.isFile_iff.1 hfile
  have hsaved : Maintained "s" "" .default saved (some bytes) :=
    Maintained.save hchanged (by decide +kernel) hbytes
  have hloaded : Maintained "s" "" .default loaded (some bytes) := Maintained.load hsaved hbytes
  have hrefused : Maintained "s" "" .default refused (some bytes) :=
    Maintained.change hloaded trivial
  have hfewer : Maintained "s" "" .default fewer (some bytes) :=
    Maintained.change hrefused trivial
  exact ⟨bytes, hfewer, configurations_agree_of_maintained hfewer⟩

end Session
end PropertyFiles
