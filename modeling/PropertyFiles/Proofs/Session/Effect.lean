import PropertyFiles.Proofs.Store.Configurations
import PropertyFiles.Proofs.Store.Merging
/-!
# What an action can do to a session

An action changes the store of its name in memory, opens another store under that name, or writes the
file of that store. What holds in every state of a session is proved by these few cases.
-/
namespace PropertyFiles

private theorem Kind.eq_name_of_ofName? {name : String} {kind : Kind} (h : ofName? name = some kind) :
    name = kind.name := by
  have hname := List.find?_some h
  exact (beq_iff_eq.1 hname).symm

/-- Whether an action puts another store under its name. -/
def Action.Opens : Action → Prop
  | .load _ _ | .create _ _ => True
  | _ => False

/-- A condition that neither loading nor creating meets keeps an action from opening a store. -/
theorem Action.not_opens_of {P : Action → Prop} {action : Action} (h : P action)
    (hload : ∀ folder kind, ¬ P (.load folder kind))
    (hcreate : ∀ folder kind, ¬ P (.create folder kind)) : ¬ action.Opens := by
  intro hopens
  cases action with
  | load folder kind => exact hload folder kind h
  | create folder kind => exact hcreate folder kind h
  | _ => exact hopens

namespace Store

/-- The store that an action on it leaves, files aside. An action that is refused leaves it as it was. -/
def edited (tree : FileTree) (store : Store) : Action → Store
  | .merge kind =>
    match Kind.ofName? kind with
    | some kind => (store.merge tree kind).1
    | none => store
  | .set key value => store.set key value
  | .remove key => store.remove key
  | .setTarget hash => (store.setTarget hash).toOption.getD store
  | .setConfigurations configurations =>
    (store.setConfigurations configurations).toOption.getD store
  | _ => store

private theorem edited_merge (tree : FileTree) (store : Store) (kind : String) :
    store.edited tree (.merge kind) = store ∨
      ∃ found, store.edited tree (.merge kind) = (store.merge tree found).1 := by
  rw [edited]
  split
  · rename_i found _
    exact Or.inr ⟨found, rfl⟩
  · exact Or.inl rfl

theorem edited_setTarget (tree : FileTree) (store : Store) (hash : RawText) :
    store.edited tree (.setTarget hash) = store ∨
      store.edited tree (.setTarget hash) = store.set WellKnown.target (some hash) := by
  rw [edited, setTarget]
  split
  · exact Or.inr rfl
  · exact Or.inl rfl

theorem edited_setConfigurations (tree : FileTree) (store : Store) (configurations : Properties) :
    store.edited tree (.setConfigurations configurations) = store ∨
      (∀ name ∈ configurations.keys, isKey name) ∧
        store.edited tree (.setConfigurations configurations) =
          store.withConfigurations configurations := by
  rw [edited]
  cases hset : store.setConfigurations configurations with
  | ok after =>
    obtain ⟨hnames, rfl⟩ := setConfigurations_eq_ok_iff.1 hset
    exact Or.inr ⟨hnames, rfl⟩
  | error error => exact Or.inl rfl

/-- An action leaves a store in its place: no other folder, no other kind. -/
theorem folder_kind_edited (tree : FileTree) (store : Store) (action : Action) :
    (store.edited tree action).folder = store.folder ∧
      (store.edited tree action).kind = store.kind := by
  cases action with
  | merge kind =>
    rcases store.edited_merge tree kind with hsame | ⟨found, hmerge⟩
    · rw [hsame]
      exact ⟨rfl, rfl⟩
    · rw [hmerge]
      exact ⟨folder_merge tree store found, kind_merge tree store found⟩
  | setTarget hash =>
    rcases store.edited_setTarget tree hash with hsame | hset
    · rw [hsame]
      exact ⟨rfl, rfl⟩
    · rw [hset]
      exact ⟨rfl, rfl⟩
  | setConfigurations configurations =>
    rcases store.edited_setConfigurations tree configurations with hsame | ⟨_, hset⟩
    · rw [hsame]
      exact ⟨rfl, rfl⟩
    · rw [hset]
      exact ⟨folder_withConfigurations store configurations,
        kind_withConfigurations store configurations⟩
  | _ => exact ⟨rfl, rfl⟩

/-- The entries that an action puts into a store. -/
inductive Puts (tree : FileTree) (store : Store) : Action → String × Option RawText → Prop
  | set (key : String) (value : Option RawText) : Puts tree store (.set key value) (key, value)
  | setTarget (hash : RawText) : Puts tree store (.setTarget hash) (WellKnown.target, some hash)
  | list {configurations : Properties} : (∀ name ∈ configurations.keys, isKey name) →
      Puts tree store (.setConfigurations configurations)
        (WellKnown.configurations, some ↑(",".intercalate configurations.keys))
  | configuration {configurations : Properties} {e : String × Option RawText} :
    (∀ name ∈ configurations.keys, isKey name) → e ∈ configurations.entries →
      Puts tree store (.setConfigurations configurations) (WellKnown.configurationKey e.1, e.2)
  | merge {name : String} {kind : Kind} {properties : OrderedMap String String}
    {e : String × String} : (tree.loadProject store.folder kind).1 = some properties →
      e ∈ properties.entries → Puts tree store (.merge name) (e.1, some ↑e.2)

/-- Every entry of an edited store was there before or was put there. -/
theorem mem_entries_edited {tree : FileTree} {store : Store} {action : Action}
    {e : String × Option RawText} (h : e ∈ (store.edited tree action).properties.entries) :
    e ∈ store.properties.entries ∨ store.Puts tree action e := by
  cases action with
  | merge kind =>
    rcases store.edited_merge tree kind with hsame | ⟨found, hmerge⟩
    · rw [hsame] at h
      exact Or.inl h
    · rw [hmerge] at h
      rcases mem_entries_merge h with h | ⟨properties, entry, hentry, hload, rfl⟩
      · exact Or.inl h
      · exact Or.inr (.merge hload hentry)
  | set key value =>
    rcases OrderedMap.mem_entries_insert.1 h with rfl | ⟨h, _⟩
    · exact Or.inr (.set key value)
    · exact Or.inl h
  | remove key => exact Or.inl (List.mem_of_mem_filter h)
  | setTarget hash =>
    rcases store.edited_setTarget tree hash with hsame | hset
    · rw [hsame] at h
      exact Or.inl h
    · rw [hset] at h
      rcases OrderedMap.mem_entries_insert.1 h with rfl | ⟨h, _⟩
      · exact Or.inr (.setTarget hash)
      · exact Or.inl h
  | setConfigurations configurations =>
    rcases store.edited_setConfigurations tree configurations with hsame | ⟨hnames, hset⟩
    · rw [hsame] at h
      exact Or.inl h
    · rw [hset] at h
      rcases mem_entries_withConfigurations h with h | rfl | ⟨entry, hentry, rfl⟩
      · exact Or.inl h
      · exact Or.inr (.list hnames)
      · exact Or.inr (.configuration hnames hentry)
  | _ => exact Or.inl h

end Store

namespace Session

theorem get?_keep (session : Session) (name : String) (store : Store) :
    (session.keep name store).stores.get? name = some store := by
  rw [keep, OrderedMap.get?_insert_self]

theorem keep_of_get? {session : Session} {name : String} {store : Store}
    (hstore : session.stores.get? name = some store) : session.keep name store = session := by
  rw [keep, OrderedMap.insert_of_get? hstore]

/-- The sessions that an action can lead to. -/
inductive Effect (session : Session) (name : String) : Action → Session → Prop
  | same (action : Action) : Effect session name action session
  | load {folder : String} {kind : Kind} {store : Store} :
    (Store.load session.tree folder kind).1 = some store →
      Effect session name (.load folder kind.name) (session.keep name store)
  | loadNone {folder : String} {kind : Kind} :
    (Store.load session.tree folder kind).1 = none →
      Effect session name (.load folder kind.name)
        { session with stores := session.stores.erase name }
  | create (folder : String) (kind : Kind) :
    Effect session name (.create folder kind.name) (session.keep name (Store.create folder kind))
  | edit {store : Store} (action : Action) : session.stores.get? name = some store →
      Effect session name action (session.keep name (store.edited session.tree action))
  | save {store : Store} {tree : FileTree} :
    session.stores.get? name = some store → store.Writes session.tree tree →
      Effect session name .save { session with tree }

section Cases
variable {session : Session} {name : String} {action : Action}

private theorem effect_withKind {kind : String} {next : Kind → Outcome}
    (h : ∀ found : Kind, kind = found.name → session.Effect name action (next found).session) :
    session.Effect name action (session.withKind kind next).session := by
  unfold withKind
  split
  · rename_i found hfound
    exact h found (Kind.eq_name_of_ofName? hfound)
  · exact .same action

private theorem effect_withStore {next : Store → Outcome}
    (h : ∀ store, session.stores.get? name = some store →
      session.Effect name action (next store).session) :
    session.Effect name action (session.withStore name next).session := by
  unfold withStore
  split
  · rename_i store hstore
    exact h store hstore
  · exact .same action

private theorem effect_replace {store : Store} {result : Except StoreError Store}
    (hstore : session.stores.get? name = some store)
    (h : ∀ after, result = .ok after → store.edited session.tree action = after) :
    session.Effect name action (session.replace name result).session := by
  cases result with
  | ok after =>
    have hedit := Effect.edit action hstore
    rw [h after rfl] at hedit
    exact hedit
  | error error => exact .same action

end Cases

theorem effect_perform (session : Session) (name : String) (action : Action) :
    session.Effect name action (session.perform name action).session := by
  cases action with
  | load folder kind =>
    apply effect_withKind
    rintro kind rfl
    split
    · rename_i store notices hload
      exact .load (by rw [hload])
    · rename_i notices hload
      exact .loadNone (by rw [hload])
  | create folder kind =>
    apply effect_withKind
    rintro kind rfl
    exact .create folder kind
  | merge kind =>
    apply effect_withStore
    intro store hstore
    apply effect_withKind
    rintro kind rfl
    have h := Effect.edit (.merge kind.name) hstore
    simpa only [Store.edited, Kind.ofName?_name] using h
  | set key value =>
    apply effect_withStore
    intro store hstore
    exact effect_replace hstore fun _ hset => Except.ok.inj hset
  | remove key =>
    apply effect_withStore
    intro store hstore
    exact .edit (.remove key) hstore
  | setTarget hash =>
    apply effect_withStore
    intro store hstore
    apply effect_replace hstore
    intro after hset
    rw [Store.edited, hset]
    rfl
  | setConfigurations configurations =>
    apply effect_withStore
    intro store hstore
    apply effect_replace hstore
    intro after hset
    rw [Store.edited, hset]
    rfl
  | save =>
    apply effect_withStore
    intro store hstore
    rcases Store.save_cases session.tree store with
      ⟨error, hsave, _⟩ | ⟨after, line, hsave, hwrites, _⟩ | ⟨after, hsave, hwrites, _⟩
    · rw [hsave]
      exact .same _
    · rw [hsave]
      exact .save hstore hwrites
    · rw [hsave]
      exact .save hstore hwrites
  | get key => exact effect_withStore fun store _ => .same _
  | contains key => exact effect_withStore fun store _ => .same _
  | inspect => exact effect_withStore fun store _ => .same _
  | configurations => exact effect_withStore fun store _ => .same _
  | filter filter => exact effect_withStore fun store _ => .same _

/-- Only saving changes files. -/
theorem Effect.tree_eq {session after : Session} {name : String} {action : Action}
    (h : session.Effect name action after) (hsave : action ≠ .save) : after.tree = session.tree := by
  cases h with
  | save => exact absurd rfl hsave
  | _ => rfl

theorem get?_perform {session : Session} {name : String} {store : Store} {action : Action}
    (hstore : session.stores.get? name = some store) (hopens : ¬ action.Opens) :
    (session.perform name action).session.stores.get? name = some store ∨
      (session.perform name action).session.stores.get? name =
        some (store.edited session.tree action) := by
  have heffect := effect_perform session name action
  generalize (session.perform name action).session = after at heffect ⊢
  cases heffect with
  | same => exact Or.inl hstore
  | load => exact absurd trivial hopens
  | loadNone => exact absurd trivial hopens
  | create => exact absurd trivial hopens
  | edit _ hfound =>
    obtain rfl := Option.some.inj (hstore.symm.trans hfound)
    exact Or.inr (get?_keep session name _)
  | save => exact Or.inl hstore

end Session
end PropertyFiles
