import Mathlib.Data.Prod.Basic
import PropertyFiles.Proofs.Document.RoundTrip
import PropertyFiles.Proofs.FileTree.Replacement
import PropertyFiles.Session
/-!
# Saving and loading stores

A file loads if it stands where the project and the kind say and its text can be read; a store saves
if its document may be written and a file can be put there. What was saved is what loads again, and
what was loaded can be saved and then settles: saving it once more writes the same bytes.
-/
namespace PropertyFiles

theorem Text.fromUTF8?_toUTF8 (text : String) : String.fromUTF8? text.toUTF8 = some text := by
  rw [String.toUTF8_eq_toByteArray, String.fromUTF8?, dif_pos text.isValidUTF8]
  rfl

/-- Bytes are the text that they decode to, and no other text has them. -/
theorem Text.fromUTF8?_eq_some_iff {bytes : ByteArray} {text : String} :
    String.fromUTF8? bytes = some text ↔ bytes = text.toUTF8 := by
  constructor
  · intro h
    unfold String.fromUTF8? at h
    split at h
    · obtain rfl := Option.some.inj h
      rfl
    · cases h
  · rintro rfl
    exact fromUTF8?_toUTF8 text

namespace Kind

theorem fileName_ne_parent (kind : Kind) : kind.fileName ≠ ".." := by
  cases kind <;> decide

theorem hasNul_child_fileName (folder : Path) (kind : Kind) :
    (folder.child kind.fileName).hasNul = folder.hasNul := by
  have hname : kind.fileName.toList.contains '\x00' = false := by
    cases kind <;> decide
  rw [Path.hasNul, Path.parts_child, List.any_append, List.any_cons, hname, List.any_nil,
    Bool.or_false, Bool.or_false, Path.hasNul]

end Kind

namespace FileTree

variable {tree : FileTree}

private theorem readFile_of_find? {path : Path} {bytes : ByteArray}
    (h : tree.find? path = some (.file bytes)) : tree.readFile path = .ok bytes := by
  obtain ⟨_, place, hplace, hnode⟩ := find?_eq_some_iff.1 h
  simp only [readFile, hplace, hnode]

theorem isFolder_of_find?_child {folder : Path} {kind : Kind} {node : Node}
    (h : tree.find? (folder.child kind.fileName) = some node) : tree.isFolder folder := by
  obtain ⟨hnul, place, hplace, _⟩ := find?_eq_some_iff.1 h
  obtain ⟨above, habove, hfolder, _⟩ := (locate_child_eq_ok_iff kind.fileName_ne_parent).1 hplace
  rw [Kind.hasNul_child_fileName] at hnul
  exact isFolder_iff.2 (find?_eq_some_iff.2 ⟨hnul, above, habove, hfolder⟩)

theorem loadProject_eq_some_iff {folder : String} {kind : Kind}
    {properties : OrderedMap String String} :
    (tree.loadProject folder kind).1 = some properties ↔
      ∃ bytes, tree.find? ((Path.ofString folder).child kind.fileName) = some (.file bytes) ∧
        Document.decode ((Path.ofString folder).child kind.fileName) bytes = .ok properties := by
  have hread {bytes : ByteArray}
      (hfile : tree.find? ((Path.ofString folder).child kind.fileName) = some (.file bytes)) :
      (tree.loadProject folder kind).1 = some properties ↔
        Document.decode ((Path.ofString folder).child kind.fileName) bytes = .ok properties := by
    simp only [loadProject, loadProperties, isFolder_of_find?_child hfile,
      isFile_iff.2 ⟨bytes, hfile⟩, readFile_of_find? hfile, Bool.not_true, Bool.false_eq_true,
      if_false]
    cases Document.decode ((Path.ofString folder).child kind.fileName) bytes <;> simp
  constructor
  · intro h
    have hfile : tree.isFile ((Path.ofString folder).child kind.fileName) := by
      by_contra hfile
      rw [Bool.not_eq_true] at hfile
      simp only [loadProject, hfile, Bool.not_false, if_true] at h
      split at h <;> simp at h
    obtain ⟨bytes, hbytes⟩ := isFile_iff.1 hfile
    exact ⟨bytes, hbytes, (hread hbytes).1 h⟩
  · rintro ⟨bytes, hbytes, hdecode⟩
    exact (hread hbytes).2 hdecode

end FileTree

namespace Document

theorem decode_eq_ok_iff {path : Path} {bytes : ByteArray}
    {properties : OrderedMap String String} :
    decode path bytes = .ok properties ↔
      ∃ text, String.fromUTF8? bytes = some text ∧ read text = .ok properties := by
  unfold decode
  cases String.fromUTF8? bytes with
  | none => simp
  | some text => cases h : read text <;> simp [h]

end Document

theorem FileTree.fault?_of_loadProject {tree : FileTree} {folder : String} {kind : Kind}
    {properties : OrderedMap String String}
    (h : (tree.loadProject folder kind).1 = some properties) :
    Document.fault? (properties.raw.mapValues some) = none := by
  obtain ⟨bytes, _, hdecode⟩ := loadProject_eq_some_iff.1 h
  obtain ⟨text, _, hread⟩ := Document.decode_eq_ok_iff.1 hdecode
  exact Document.fault?_of_read hread

theorem FileTree.isKey_isValue_of_loadProject {tree : FileTree} {folder : String} {kind : Kind}
    {properties : OrderedMap String String}
    (h : (tree.loadProject folder kind).1 = some properties) {e : String × String}
    (he : e ∈ properties.entries) : isKey e.1 ∧ Line.IsValue e.2 := by
  obtain ⟨bytes, _, hdecode⟩ := loadProject_eq_some_iff.1 h
  obtain ⟨text, _, hread⟩ := Document.decode_eq_ok_iff.1 hdecode
  exact Document.isKey_isValue_of_read hread he

namespace Store

theorem load_eq_some_iff {tree : FileTree} {folder : String} {kind : Kind} {store : Store} :
    (load tree folder kind).1 = some store ↔
      ∃ properties, (tree.loadProject folder kind).1 = some properties ∧
        store = ⟨folder, kind, properties.raw.mapValues some⟩ := by
  unfold load
  rcases tree.loadProject folder kind with ⟨_ | properties, notices⟩ <;> simp [eq_comm]

section Saving
variable {tree after : FileTree} {store : Store}

/-- Saving writes the text of a store whose entries have no fault, wherever a file can be put. -/
def Writes (tree : FileTree) (store : Store) (after : FileTree) : Prop :=
  Document.fault? store.properties = none ∧ store.path.hasNul = false ∧
    tree.writeFile store.path store.text.toUTF8 = .ok after

/-- The ways in which a save can end: refused before the file is touched, stopped in the text, or done. -/
theorem save_cases (tree : FileTree) (store : Store) :
    (∃ error, store.save tree = (tree, .error error) ∧ ∀ line, error ≠ .unencodable line) ∨
    (∃ after line, store.save tree = (after, .error (.unencodable line)) ∧ store.Writes tree after ∧
      Document.unencodable? store.properties = some line) ∨
    ∃ after, store.save tree = (after, .ok [.saved store.properties.size store.path]) ∧
      store.Writes tree after ∧ Document.unencodable? store.properties = none := by
  unfold save Writes
  cases Document.fault? store.properties with
  | some fault => exact Or.inl ⟨_, rfl, nofun⟩
  | none =>
    cases store.path.hasNul with
    | true => exact Or.inl ⟨_, rfl, nofun⟩
    | false =>
      cases tree.writeFile store.path store.text.toUTF8 with
      | error failure => exact Or.inl ⟨_, rfl, nofun⟩
      | ok written =>
        cases Document.unencodable? store.properties with
        | some line => exact Or.inr (Or.inl ⟨written, line, rfl, ⟨rfl, rfl, rfl⟩, rfl⟩)
        | none => exact Or.inr (Or.inr ⟨written, rfl, ⟨rfl, rfl, rfl⟩, rfl⟩)

private theorem save_of_writes (h : store.Writes tree after) :
    store.save tree = (after, match Document.unencodable? store.properties with
      | some line => .error (.unencodable line)
      | none => .ok [.saved store.properties.size store.path]) := by
  obtain ⟨hfault, hnul, hwrite⟩ := h
  simp only [save, hfault, hnul, hwrite, Bool.false_eq_true, if_false]
  cases Document.unencodable? store.properties <;> rfl

theorem save_eq_ok_iff {notices : List Notice} :
    store.save tree = (after, .ok notices) ↔
      store.Writes tree after ∧ Document.unencodable? store.properties = none ∧
        notices = [.saved store.properties.size store.path] := by
  constructor
  · intro h
    rcases save_cases tree store with ⟨_, hsave, _⟩ | ⟨_, _, hsave, _⟩ | ⟨_, hsave, hwrites, hwhole⟩
    · simp [hsave] at h
    · simp [hsave] at h
    · obtain ⟨rfl, hnotices⟩ := Prod.mk.inj (hsave.symm.trans h)
      exact ⟨hwrites, hwhole, (Except.ok.inj hnotices).symm⟩
  · rintro ⟨hwrites, hwhole, rfl⟩
    rw [save_of_writes hwrites, hwhole]

theorem save_eq_unencodable_iff {line : RawText} :
    store.save tree = (after, .error (.unencodable line)) ↔
      store.Writes tree after ∧ Document.unencodable? store.properties = some line := by
  constructor
  · intro h
    rcases save_cases tree store with ⟨_, hsave, hother⟩ | ⟨_, _, hsave, hwrites, hstop⟩ | ⟨_, hsave, _⟩
    · obtain ⟨_, herror⟩ := Prod.mk.inj (hsave.symm.trans h)
      exact absurd (Except.error.inj herror) (hother line)
    · obtain ⟨rfl, herror⟩ := Prod.mk.inj (hsave.symm.trans h)
      obtain rfl := StoreError.unencodable.inj (Except.error.inj herror)
      exact ⟨hwrites, hstop⟩
    · simp [hsave] at h
  · rintro ⟨hwrites, hstop⟩
    rw [save_of_writes hwrites, hstop]

/-- Only the entries decide whether a store is refused for an entry. -/
theorem save_eq_unwritable_iff {key : String} {fault : Document.Fault} :
    (store.save tree).2 = .error (.unwritable key fault) ↔
      Document.fault? store.properties = some (key, fault) := by
  unfold save
  cases Document.fault? store.properties with
  | some found => simp [Prod.ext_iff]
  | none =>
    cases store.path.hasNul with
    | true => simp
    | false =>
      cases tree.writeFile store.path store.text.toUTF8 with
      | error failure => simp
      | ok written => cases Document.unencodable? store.properties <;> simp

end Saving

/-- What a store is once it was saved and loaded: an undefined value comes back as the text written
for it, and what stands behind a value that cannot be encoded does not come back. -/
def reloaded (store : Store) : Store :=
  { store with properties := (Document.kept store.properties).raw.mapValues some }

section Whole
variable {store : Store} (h : Document.unencodable? store.properties = none)
include h

theorem get?_properties_reloaded (key : String) : store.reloaded.properties.get? key =
    (store.properties.get? key).map fun value =>
      some (value.getD Document.undefinedText) := by
  rw [reloaded, Document.kept_eq h, OrderedMap.get?_mapValues, OrderedMap.get?_mapValues,
    OrderedMap.get?_mapValues]
  cases hget : store.properties.get? key with
  | none => rfl
  | some value =>
    have hwritten : (Document.written? value).isSome :=
      Document.unencodable?_eq_none_iff.1 h _ (OrderedMap.get?_eq_some_iff.1 hget)
    obtain ⟨text, htext⟩ := Option.isSome_iff_exists.1 hwritten
    rw [Option.map_some, Option.map_some, Option.map_some, Option.map_some, htext, Option.getD_some]
    cases value with
    | none =>
      obtain rfl := Option.some.inj htext
      rfl
    | some raw =>
      obtain rfl := RawText.text?_eq_some_iff.1 htext
      rfl

private theorem keys_reloaded : store.reloaded.properties.keys = store.properties.keys := by
  rw [reloaded, Document.kept_eq h, OrderedMap.keys_mapValues, OrderedMap.keys_mapValues,
    OrderedMap.keys_mapValues]

theorem contains_reloaded (key : String) : store.reloaded.contains key = store.contains key := by
  rw [contains, contains, OrderedMap.contains, OrderedMap.contains, keys_reloaded h]

/-- A property is looked up as before, unless it was there without a value. -/
theorem get?_reloaded_eq_iff {key : String} :
    store.reloaded.get? key = store.get? key ↔ store.properties.get? key ≠ some none := by
  rw [get?, get?, OrderedMap.value?, OrderedMap.value?, get?_properties_reloaded h]
  cases store.properties.get? key with
  | none => simp
  | some value => cases value <;> simp

theorem reloaded_of_defined (hdefined : ∀ e ∈ store.properties.entries, e.2.isSome) :
    store.reloaded = store := by
  have hsame : store.reloaded.properties = store.properties := by
    apply OrderedMap.ext_get? (keys_reloaded h)
    intro key
    rw [get?_properties_reloaded h]
    cases hget : store.properties.get? key with
    | none => rfl
    | some value =>
      obtain ⟨raw, hraw⟩ := Option.isSome_iff_exists.1
        (hdefined _ (OrderedMap.get?_eq_some_iff.1 hget))
      obtain rfl : value = some raw := hraw
      rfl
  exact congrArg (fun properties => { store with properties }) hsame

end Whole

theorem load_of_text {tree : FileTree} {store : Store}
    (hfault : Document.fault? store.properties = none)
    (hfile : tree.find? store.path = some (.file store.text.toUTF8)) :
    (load tree store.folder store.kind).1 = some store.reloaded := by
  refine load_eq_some_iff.2 ⟨Document.kept store.properties, ?_, rfl⟩
  refine FileTree.loadProject_eq_some_iff.2 ⟨store.text.toUTF8, hfile, ?_⟩
  exact Document.decode_eq_ok_iff.2
    ⟨store.text, Text.fromUTF8?_toUTF8 store.text, Document.read_render hfault⟩

/-- What was written loads again, also if the text ended early. -/
theorem load_of_writes {tree after : FileTree} {store : Store} (h : store.Writes tree after) :
    (load after store.folder store.kind).1 = some store.reloaded :=
  load_of_text h.1 (FileTree.find?_of_writeFile_self h.2.2 h.2.1)

theorem load_of_save {tree after : FileTree} {store : Store} {notices : List Notice}
    (h : store.save tree = (after, .ok notices)) :
    (load after store.folder store.kind).1 = some store.reloaded :=
  load_of_writes (save_eq_ok_iff.1 h).1

private theorem load_of_save_defined {tree after : FileTree} {store : Store} {notices : List Notice}
    (hdefined : ∀ e ∈ store.properties.entries, e.2.isSome)
    (h : store.save tree = (after, .ok notices)) :
    (load after store.folder store.kind).1 = some store := by
  rw [load_of_save h, reloaded_of_defined (save_eq_ok_iff.1 h).2.1 hdefined]

theorem unencodable?_of_load {tree : FileTree} {folder : String} {kind : Kind} {store : Store}
    (h : (load tree folder kind).1 = some store) : Document.unencodable? store.properties = none := by
  obtain ⟨properties, _, rfl⟩ := load_eq_some_iff.1 h
  exact Document.unencodable?_raw properties

/-- A loaded store may be saved, and its file can be written where it was found. -/
theorem exists_save_of_load {tree : FileTree} {folder : String} {kind : Kind} {store : Store}
    (h : (load tree folder kind).1 = some store) :
    Document.fault? store.properties = none ∧
      ∃ after notices, store.save tree = (after, .ok notices) := by
  have hwhole := unencodable?_of_load h
  obtain ⟨properties, hproject, rfl⟩ := load_eq_some_iff.1 h
  have hfault := FileTree.fault?_of_loadProject hproject
  obtain ⟨bytes, hfile, _⟩ := FileTree.loadProject_eq_some_iff.1 hproject
  obtain ⟨hnul, place, hplace, hnode⟩ := FileTree.find?_eq_some_iff.1 hfile
  obtain ⟨after, hwrite⟩ := FileTree.exists_writeFile_iff.2 ⟨place, hplace, by simp [hnode]⟩
  exact ⟨hfault, after, _, save_eq_ok_iff.2 ⟨⟨hfault, hnul, hwrite⟩, hwhole, rfl⟩⟩

/-- Loading settles a file: the loaded store is never refused for its entries, whatever has become
of the file tree, and a save of it loads as the same entries, which saved again are the same bytes. -/
theorem save_of_load_settles {tree : FileTree} {folder : String} {kind : Kind} {store : Store}
    (hload : (load tree folder kind).1 = some store) :
    (∀ other,
      (∀ key fault, (store.save other).2 ≠ .error (.unwritable key fault)) ∧
        ∀ line, (store.save other).2 ≠ .error (.unencodable line)) ∧
    (∃ saved notices, store.save tree = (saved, .ok notices)) ∧
    ∀ other saved notices, store.save other = (saved, .ok notices) →
      ∃ again rewritten more, (load saved folder kind).1 = some again ∧
        again.properties.entries = store.properties.entries ∧
        again.save saved = (rewritten, .ok more) ∧
        saved.find? store.path = some (.file store.text.toUTF8) ∧
        rewritten.find? again.path = saved.find? store.path := by
  obtain ⟨hfault, hsave⟩ := exists_save_of_load hload
  have hwhole := unencodable?_of_load hload
  refine ⟨fun other => ⟨?_, ?_⟩, hsave, ?_⟩
  · intro key fault h
    rw [save_eq_unwritable_iff, hfault] at h
    cases h
  · intro line h
    obtain ⟨_, hstop⟩ := save_eq_unencodable_iff.1 (Prod.ext rfl h)
    rw [hwhole] at hstop
    cases hstop
  · intro other saved notices h
    obtain ⟨⟨_, hnul, hwrite⟩, _⟩ := save_eq_ok_iff.1 h
    have hdefined : ∀ e ∈ store.properties.entries, e.2.isSome := by
      obtain ⟨properties, _, rfl⟩ := load_eq_some_iff.1 hload
      intro e he
      obtain ⟨_, _, rfl⟩ := List.mem_map.1 he
      rfl
    have hplace : store.folder = folder ∧ store.kind = kind := by
      obtain ⟨_, _, rfl⟩ := load_eq_some_iff.1 hload
      exact ⟨rfl, rfl⟩
    have hagain := load_of_save_defined hdefined h
    rw [hplace.1, hplace.2] at hagain
    exact ⟨store, saved, _, hagain, rfl,
      save_eq_ok_iff.2 ⟨⟨hfault, hnul, FileTree.writeFile_of_writeFile hwrite⟩, hwhole, rfl⟩,
      FileTree.find?_of_writeFile_self hwrite hnul, rfl⟩

theorem save_of_load_settles_of_mixed_breaks :
    let tree := (FileTree.emptyAt "work").place (Path.ofString "p/default.properties")
      (.file "  b = 1\r\n# c\ra=x\n\tb\u00a0= 2 \r".toUTF8)
    ∃ store, (load tree "p" .default).1 = some store ∧
      store.properties.entries = [("b", some ↑"2 "), ("a", some ↑"x")] ∧
      ∃ saved notices, store.save tree = (saved, .ok notices) := by
  intro tree
  have hentries : (load tree "p" .default).1.map (·.properties.entries) =
      some [("b", some ↑"2 "), ("a", some ↑"x")] := by decide +kernel
  obtain ⟨store, hload, hstore⟩ := Option.map_eq_some_iff.1 hentries
  exact ⟨store, hload, hstore, (save_of_load_settles hload).2.1⟩

end Store

namespace Session

section Save
variable {session : Session} {name : String} {store : Store}
  (hstore : session.stores.get? name = some store)
include hstore

theorem perform_save : (session.perform name .save).session =
      { session with tree := (store.save session.tree).1 } ∧
    (session.perform name .save).reply =
      ((store.save session.tree).2.map fun _ => .done).mapError .store := by
  simp only [perform, withStore, hstore]
  rcases store.save session.tree with ⟨after, error | notices⟩ <;> exact ⟨rfl, rfl⟩

theorem perform_save_eq_error_iff {error : StoreError} :
    (session.perform name .save).reply = .error (.store error) ↔
      (store.save session.tree).2 = .error error := by
  rw [(perform_save hstore).2]
  cases (store.save session.tree).2 <;> simp [Except.map, Except.mapError]

/-- A save answers only if the whole store was written. -/
theorem perform_save_of_isOk (h : (session.perform name .save).reply.isOk) :
    ∃ after notices, store.save session.tree = (after, .ok notices) ∧
      (session.perform name .save).session = { session with tree := after } := by
  obtain ⟨hsession, hreply⟩ := perform_save hstore
  rw [hreply] at h
  rcases hsave : store.save session.tree with ⟨after, error | notices⟩
  · rw [hsave] at h
    cases h
  · exact ⟨after, notices, rfl, by rw [hsession, hsave]⟩

end Save

theorem perform_load (session : Session) (name : String) {folder : String} {kind : Kind}
    {store : Store} (h : (Store.load session.tree folder kind).1 = some store) :
    (session.perform name (.load folder kind.name)).reply = .ok (.flag true) ∧
      (session.perform name (.load folder kind.name)).session = session.keep name store := by
  simp only [perform, withKind, Kind.ofName?_name]
  rw [Prod.fst_eq_iff.1 h]
  exact ⟨rfl, rfl⟩

/-- A store whose values are all defined loads, under any name, as it was saved; saving changes
neither the stores in memory nor anything else in the file tree. -/
theorem load_after_save {session : Session} {name : String} {store : Store}
    (hstore : session.stores.get? name = some store)
    (hdefined : ∀ e ∈ store.properties.entries, e.2.isSome)
    (hsaved : (session.perform name .save).reply.isOk) (reader : String) :
    let saved := (session.perform name .save).session
    let loaded := saved.perform reader (.load store.folder store.kind.name)
    saved.stores = session.stores ∧
      loaded.reply = .ok (.flag true) ∧
      loaded.session.stores.get? reader = some store ∧
      loaded.session.tree = saved.tree ∧
      (∀ path, session.tree.locate path ≠ session.tree.locate store.path →
        saved.tree.find? path = session.tree.find? path) ∧
      ∀ place, session.tree.locate store.path ≠ .ok place →
        saved.tree.node? place = session.tree.node? place := by
  obtain ⟨after, notices, hsave, hsession⟩ := perform_save_of_isOk hstore hsaved
  obtain ⟨⟨_, _, hwrite⟩, _⟩ := Store.save_eq_ok_iff.1 hsave
  have hload := Store.load_of_save_defined hdefined hsave
  obtain ⟨hreply, hloaded⟩ := perform_load { session with tree := after } reader hload
  rw [hsession]
  intro saved loaded
  refine ⟨rfl, hreply, ?_, ?_, fun path => FileTree.find?_of_writeFile_of_ne hwrite, ?_⟩
  · rw [show loaded.session = _ from hloaded, keep, OrderedMap.get?_insert_self]
  · rw [show loaded.session = _ from hloaded, keep]
  · intro place hplace
    obtain ⟨written, hwritten, _, hafter⟩ := FileTree.node?_of_writeFile hwrite
    rw [hafter, if_neg]
    rintro rfl
    exact hplace hwritten

theorem load_after_save_of_values :
    let store : Store := ⟨"", .machine, OrderedMap.ofList
      [("sdk-location", some "/opt/sdk "), ("note", some "a=b # \u2028\x00"), ("empty", some "")]⟩
    let session : Session := ⟨FileTree.emptyAt "work", OrderedMap.ofList [("a", store)]⟩
    session.stores.get? "a" = some store ∧
      (∀ e ∈ store.properties.entries, e.2.isSome) ∧
      (session.perform "a" .save).reply.isOk ∧
      ((session.perform "a" .save).session.perform "b"
        (.load store.folder store.kind.name)).session.stores.get? "b" = some store := by
  intro store session
  have hdefined : ∀ e ∈ store.properties.entries, e.2.isSome := by decide
  have hsaved : (session.perform "a" .save).reply.isOk := by decide +kernel
  exact ⟨rfl, hdefined, hsaved, (load_after_save rfl hdefined hsaved "b").2.2.1⟩

end Session
end PropertyFiles
