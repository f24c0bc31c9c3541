import PropertyFiles.Proofs.FileTree.Descent
import PropertyFiles.Proofs.Session.Effect
import PropertyFiles.Proofs.Session.InPlace
import PropertyFiles.Proofs.Store.Writability
/-!
# What was saved last

While no one else writes files, each path loads what was last written to it, whichever stores have been
opened, changed, saved elsewhere or refused since then. That is the latest save, or as much of it as could
be encoded. A record of the writes, newest first, is kept beside the session to say so.
-/
namespace PropertyFiles

/-- Whether an action gives a value to all that it sets and leaves the project folders below the
current one. -/
def Action.IsDefinite : Action → Prop
  | .load folder _ | .create folder _ => (Path.ofString folder).IsDownward
  | .set _ value => value.isSome
  | .setConfigurations given => ∀ e ∈ given.entries, e.2.isSome
  | _ => True

instance : DecidablePred Action.IsDefinite
  | .load folder _ | .create folder _ =>
    inferInstanceAs (Decidable (Path.ofString folder).IsDownward)
  | .set _ value => inferInstanceAs (Decidable (value.isSome = true))
  | .setConfigurations given =>
    inferInstanceAs (Decidable (∀ e ∈ given.entries, e.2.isSome = true))
  | .merge _ | .setTarget _ | .get _ | .remove _ | .contains _ | .inspect | .save
  | .configurations | .filter _ => isTrue trivial

namespace Store

structure IsDefinite (store : Store) : Prop where
  folder : store.folderPath.IsDownward
  values : ∀ e ∈ store.properties.entries, e.2.isSome

variable {tree : FileTree} {store : Store} {folder : String} {kind : Kind}

private theorem isDefinite_create (hfolder : (Path.ofString folder).IsDownward) (kind : Kind) :
    (create folder kind).IsDefinite :=
  ⟨hfolder, fun _ he => absurd he List.not_mem_nil⟩

private theorem isDefinite_of_load (hfolder : (Path.ofString folder).IsDownward)
    (h : (load tree folder kind).1 = some store) : store.IsDefinite := by
  obtain ⟨properties, _, rfl⟩ := load_eq_some_iff.1 h
  refine ⟨hfolder, fun e he => ?_⟩
  obtain ⟨_, _, rfl⟩ := List.mem_map.1 he
  rfl

theorem Puts.isSome {action : Action} {e : String × Option RawText}
    (h : store.Puts tree action e) (haction : action.IsDefinite) : e.2.isSome := by
  cases h with
  | set key value => exact haction
  | @configuration given entry _ hentry => exact haction entry hentry
  | _ => rfl

theorem IsDefinite.edited (h : store.IsDefinite) {action : Action} (haction : action.IsDefinite)
    (tree : FileTree) : (store.edited tree action).IsDefinite := by
  refine ⟨?_, fun e he => ?_⟩
  · rw [folderPath, (folder_kind_edited tree store action).1]
    exact h.folder
  · rcases mem_entries_edited he with he | hputs
    · exact h.values e he
    · exact hputs.isSome haction

theorem IsDefinite.path (h : store.IsDefinite) : store.path.IsDownward :=
  h.folder.child store.kind.fileName_ne_parent

end Store

namespace Session

/-- A save that wrote its file: the entries that the store had, and whether all of them were written. -/
structure Write where
  properties : Properties
  whole : Bool
deriving DecidableEq

/-- What an action puts on record: the path of a store whose save writes its file, and what is written.
A save is answered if it has written everything, and is refused for a line if it was stopped there. -/
def written? (session : Session) (name : String) : Action → Option (Path × Write)
  | .save =>
    match session.stores.get? name with
    | some store =>
      match (session.perform name .save).reply with
      | .ok _ => some (store.path, ⟨store.properties, true⟩)
      | .error (.store (.unencodable _)) => some (store.path, ⟨store.properties, false⟩)
      | .error _ => none
    | none => none
  | _ => none

/-- The writes of a run, newest first. -/
def writes (session : Session) : List (String × Action) → List (Path × Write)
  | [] => []
  | (name, action) :: rest =>
    (session.perform name action).session.writes rest ++ (session.written? name action).toList

/-- The stores have only defined values, and each path on record holds the text of a store with the
properties last recorded, which all can be encoded if that save succeeded. -/
structure Recorded (session : Session) (record : List (Path × Write)) : Prop where
  stores : ∀ name store, session.stores.get? name = some store → store.IsDefinite
  files : ∀ path write, record.lookup path = some write →
    ∃ store : Store, store.IsDefinite ∧ store.IsWritable ∧ store.path = path ∧
      store.properties = write.properties ∧
      (write.whole → Document.unencodable? store.properties = none) ∧
      session.tree.find? path = some (.file store.text.toUTF8)

private theorem isDefinite_perform {session : Session}
    (h : ∀ name store, session.stores.get? name = some store → store.IsDefinite)
    {name : String} {action : Action} (haction : action.IsDefinite) (other : String)
    (store : Store) (hstore : (session.perform name action).session.stores.get? other = some store) :
    store.IsDefinite := by
  have hkeep {opened : Store} (hopened : opened.IsDefinite)
      (hstore : (session.keep name opened).stores.get? other = some store) : store.IsDefinite := by
    rw [keep, OrderedMap.get?_insert] at hstore
    split at hstore
    · rwa [← Option.some.inj hstore]
    · exact h other store hstore
  have heffect := effect_perform session name action
  generalize (session.perform name action).session = after at heffect hstore
  cases heffect with
  | same => exact h other store hstore
  | load hload => exact hkeep (Store.isDefinite_of_load haction hload) hstore
  | loadNone =>
    rw [OrderedMap.get?_erase] at hstore
    split at hstore
    · cases hstore
    · exact h other store hstore
  | create folder kind => exact hkeep (Store.isDefinite_create haction kind) hstore
  | edit action hfound => exact hkeep ((h name _ hfound).edited haction session.tree) hstore
  | save => exact h other store hstore

/-- Only a save that writes its file changes files, and it alone goes on record. -/
private theorem tree_perform (session : Session) (name : String) (action : Action) :
    (session.written? name action = none ∧
      (session.perform name action).session.tree = session.tree) ∨
    ∃ store whole, session.stores.get? name = some store ∧
      session.written? name action = some (store.path, ⟨store.properties, whole⟩) ∧
      (whole → Document.unencodable? store.properties = none) ∧
      store.Writes session.tree (session.perform name action).session.tree := by
  cases action with
  | save =>
    cases hstore : session.stores.get? name with
    | none =>
      have hnone : session.written? name .save = none := by
        simp only [written?, hstore]
      refine Or.inl ⟨hnone, ?_⟩
      simp only [perform, withStore, hstore, answer]
    | some store =>
      obtain ⟨hsession, hreply⟩ := perform_save hstore
      rw [written?, hstore, hsession, hreply]
      rcases Store.save_cases session.tree store with
        ⟨error, hsave, hother⟩ | ⟨after, line, hsave, hwrites, _⟩ | ⟨after, hsave, hwrites, hwhole⟩
      · refine Or.inl ⟨?_, by rw [hsave]⟩
        rw [hsave]
        cases error with
        | unencodable line => exact absurd rfl (hother line)
        | _ => rfl
      · rw [hsave]
        exact Or.inr ⟨store, false, rfl, rfl, fun h => absurd h Bool.false_ne_true, hwrites⟩
      · rw [hsave]
        exact Or.inr ⟨store, true, rfl, rfl, fun _ => hwhole, hwrites⟩
  | _ =>
    refine Or.inl ⟨rfl, (effect_perform session name _).tree_eq fun hsave => ?_⟩
    cases hsave

theorem Recorded.perform {session : Session} {record : List (Path × Write)}
    (h : session.Recorded record) (name : String) {action : Action} (haction : action.IsDefinite) :
    (session.perform name action).session.Recorded
      ((session.written? name action).toList ++ record) := by
  refine ⟨isDefinite_perform h.stores haction, fun path write hlookup => ?_⟩
  rcases tree_perform session name action with
    ⟨hnone, htree⟩ | ⟨store, whole, hstore, hwritten, hwhole, hfault, hnul, hwrite⟩
  · rw [hnone] at hlookup
    rw [htree]
    exact h.files path write hlookup
  · have hdefinite := h.stores name store hstore
    rw [hwritten, Option.toList_some, List.singleton_append, List.lookup_cons] at hlookup
    by_cases hpath : path = store.path
    · subst hpath
      rw [beq_self_eq_true] at hlookup
      obtain rfl := Option.some.inj hlookup
      exact ⟨store, hdefinite, hfault, rfl, rfl, hwhole,
        FileTree.find?_of_writeFile_self hwrite hnul⟩
    · rw [beq_false_of_ne hpath] at hlookup
      obtain ⟨other, hother, hwritable, rfl, hproperties, hencodable, hfile⟩ :=
        h.files path write hlookup
      refine ⟨other, hother, hwritable, rfl, hproperties, hencodable, ?_⟩
      rw [FileTree.find?_of_writeFile_of_ne hwrite, hfile]
      obtain ⟨_, place, hplace, _⟩ := FileTree.find?_eq_some_iff.1 hfile
      rw [hplace]
      intro hsame
      exact hpath (FileTree.eq_of_locate_eq hother.path hdefinite.path hplace hsame.symm)

theorem Recorded.run {session : Session} {record : List (Path × Write)}
    (h : session.Recorded record) {actions : List (String × Action)}
    (hactions : ∀ step ∈ actions, step.2.IsDefinite) :
    (session.run actions).Recorded (session.writes actions ++ record) := by
  induction actions generalizing session record with
  | nil => exact h
  | cons step rest ih =>
    have hstep := h.perform step.1 (hactions step List.mem_cons_self)
    have hrest := ih hstep fun next hnext => hactions next (List.mem_cons_of_mem step hnext)
    rw [writes, List.append_assoc]
    exact hrest

end Session
end PropertyFiles
