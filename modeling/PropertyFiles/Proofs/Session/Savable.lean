import PropertyFiles.Proofs.Session.Effect
import PropertyFiles.Proofs.Store.Writability
/-!
# Stores that stay savable

A store that was created or loaded can be edited without end and is never refused for an entry, as long
as what is set has a key that is a key and a value that is a value. What is removed and what is merged
does not matter, nor do edits that are refused.
-/
namespace PropertyFiles

private theorem Text.mem_of_mem_intercalate {separator : List Char} {parts : List (List Char)} {c : Char}
    (h : c ∈ separator.intercalate parts) : c ∈ separator ∨ ∃ part ∈ parts, c ∈ part := by
  induction parts with
  | nil => simp at h
  | cons first rest ih =>
    cases rest with
    | nil => exact Or.inr ⟨first, by simp, by simpa using h⟩
    | cons second more =>
      rw [List.intercalate_cons_cons, List.append_assoc, List.mem_append, List.mem_append] at h
      rcases h with h | h | h
      · exact Or.inr ⟨first, by simp, h⟩
      · exact Or.inl h
      · rcases ih h with h | ⟨part, hpart, h⟩
        · exact Or.inl h
        · exact Or.inr ⟨part, List.mem_cons_of_mem first hpart, h⟩

private theorem Line.isValue_intercalate {names : List String} (h : ∀ name ∈ names, isKey name) :
    IsValue (",".intercalate names) := by
  apply isValue_of_unblank
  intro c hc
  rw [String.toList_intercalate] at hc
  rcases Text.mem_of_mem_intercalate hc with hcomma | ⟨part, hpart, hc⟩
  · obtain rfl := List.mem_singleton.1 hcomma
    rfl
  · obtain ⟨name, hname, rfl⟩ := List.mem_map.1 hpart
    exact (isBlank_of_isKeyChar ((isKey_iff.1 (h name hname)).2 c hc)).1

/-- Whether an action sets only what a line can hold. A value may also be missing. -/
def Action.IsWellFormed : Action → Prop
  | .set key value => isKey key ∧ ∀ raw ∈ value, raw.IsValue
  | .setTarget hash => hash.IsValue
  | .setConfigurations given => ∀ e ∈ given.entries, ∀ raw ∈ e.2, raw.IsValue
  | .load _ _ | .create _ _ => False
  | _ => True

private theorem Store.Puts.writable {tree : FileTree} {store : Store} {action : Action}
    {e : String × Option RawText} (h : store.Puts tree action e) (haction : action.IsWellFormed) :
    isKey e.1 ∧ ∀ raw ∈ e.2, raw.IsValue := by
  cases h with
  | set key value => exact haction
  | setTarget hash =>
    have hkey : isKey WellKnown.target := by decide
    refine ⟨hkey, ?_⟩
    rintro raw ⟨⟩
    exact haction
  | list hnames =>
    have hkey : isKey WellKnown.configurations := by decide
    refine ⟨hkey, ?_⟩
    rintro raw ⟨⟩
    exact RawText.isValue_ofString_iff.2 (Line.isValue_intercalate hnames)
  | @configuration configurations entry hnames hentry =>
    have hname : isKey entry.1 := hnames entry.1 (List.mem_map_of_mem hentry)
    exact ⟨WellKnown.isKey_configurationKey_iff.2 (isKey_iff.1 hname).2, haction entry hentry⟩
  | merge hload hentry =>
    obtain ⟨hkey, hvalue⟩ := FileTree.isKey_isValue_of_loadProject hload hentry
    refine ⟨hkey, ?_⟩
    rintro raw ⟨⟩
    exact RawText.isValue_ofString_iff.2 hvalue

theorem Store.IsWritable.edited {store : Store} (h : store.IsWritable) {action : Action}
    (haction : action.IsWellFormed) (tree : FileTree) : (store.edited tree action).IsWritable := by
  rw [IsWritable, Document.fault?_eq_none_iff] at h ⊢
  intro e he
  rcases mem_entries_edited he with he | hputs
  · exact h e he
  · exact hputs.writable haction

namespace Session

/-- The sessions that edits of a store lead to from its creation, or from its loading. -/
inductive Edited (name : String) : Session → Prop
  | create (session : Session) (folder : String) (kind : Kind) :
    Edited name (session.perform name (.create folder kind.name)).session
  | load {session : Session} {folder : String} {kind : Kind} :
    (Store.load session.tree folder kind).1.isSome →
      Edited name (session.perform name (.load folder kind.name)).session
  | edit {session : Session} {action : Action} :
    Edited name session → action.IsWellFormed → Edited name (session.perform name action).session
  /-- Other stores and any files may change. -/
  | elsewhere {session after : Session} :
    Edited name session → after.stores.get? name = session.stores.get? name → Edited name after

private theorem isWritable_of_edited {name : String} {session : Session} (h : Edited name session) :
    ∃ store, session.stores.get? name = some store ∧ store.IsWritable := by
  induction h with
  | create session folder kind =>
    refine ⟨Store.create folder kind, ?_, Store.isWritable_create folder kind⟩
    simp only [perform, withKind, Kind.ofName?_name, answer, get?_keep]
  | load hsome =>
    obtain ⟨store, hload⟩ := Option.isSome_iff_exists.1 hsome
    refine ⟨store, ?_, Store.isWritable_of_load hload⟩
    rw [(perform_load _ name hload).2, get?_keep]
  | edit _ haction ih =>
    obtain ⟨store, hstore, hwritable⟩ := ih
    have hopens := Action.not_opens_of haction (fun _ _ => id) fun _ _ => id
    rcases get?_perform hstore hopens with hsame | hedited
    · exact ⟨store, hsame, hwritable⟩
    · exact ⟨_, hedited, hwritable.edited haction _⟩
  | elsewhere _ hsame ih =>
    obtain ⟨store, hstore, hwritable⟩ := ih
    exact ⟨store, hsame.trans hstore, hwritable⟩

/-- In every state that edits lead to, the store is there and saving it is not refused for an entry:
neither here nor with any other files around it. -/
theorem save_not_refused_for_entry {name : String} {session : Session} (h : Edited name session) :
    ∃ store, session.stores.get? name = some store ∧
      (∀ tree error, (store.save tree).2 = .error error → error.faultyKey? = none) ∧
      ∀ error, (session.perform name .save).reply = .error (.store error) →
        error.faultyKey? = none := by
  obtain ⟨store, hstore, hwritable⟩ := isWritable_of_edited h
  have hsave (tree : FileTree) := (Store.save_faultyKey_eq_none_iff tree store).2 hwritable
  refine ⟨store, hstore, hsave, ?_⟩
  intro error hreply
  exact hsave session.tree error ((perform_save_eq_error_iff hstore).1 hreply)

theorem save_not_refused_for_entry_of_run :
    let tree := ((FileTree.emptyAt "work").place (Path.ofString "default.properties")
      (.file " a\t= 1 \r\n#c\ra=\u00e9=".toUTF8)).place (Path.ofString "local.properties")
      (.file "k.-_ =\u2028 x\x0b\n".toUTF8)
    let loaded := ((start tree).perform "s" (.load "" Kind.default.name)).session
    let merged := (loaded.perform "s" (.merge Kind.machine.name)).session
    let refused := (merged.perform "s" (.setConfigurations (.ofList [("a b", some "x")]))).session
    let configured := (refused.perform "s" (.setConfigurations
      (.ofList [("fr", some "a,b "), ("de", some "")]))).session
    let removed := (configured.perform "s" (.remove "no key\n")).session
    Edited "s" removed ∧ ∀ error, (removed.perform "s" .save).reply = .error (.store error) →
      error.faultyKey? = none := by
  intro tree loaded merged refused configured removed
  have hloaded : Edited "s" loaded := Edited.load (by decide +kernel)
  have hmerged : Edited "s" merged := Edited.edit hloaded trivial
  have hspaced : ∀ e ∈ (.ofList [("a b", some ↑"x")] : Properties).entries,
      ∀ raw ∈ e.2, raw.IsValue := by decide
  have hvalues : ∀ e ∈ (.ofList [("fr", some ↑"a,b "), ("de", some ↑"")] : Properties).entries,
      ∀ raw ∈ e.2, raw.IsValue := by decide
  have hrefused : Edited "s" refused := Edited.edit hmerged hspaced
  have hconfigured : Edited "s" configured := Edited.edit hrefused hvalues
  have hremoved : Edited "s" removed := Edited.edit hconfigured trivial
  obtain ⟨_, _, _, hsave⟩ := save_not_refused_for_entry hremoved
  exact ⟨hremoved, hsave⟩

end Session
end PropertyFiles
