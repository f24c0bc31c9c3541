import PropertyFiles.Proofs.OrderedMap.Merging
import PropertyFiles.Proofs.Store.FileState
/-!
# Merging the files of a project

A file contributes what its lines define, or nothing if it cannot be read. In one file the last
definition of a key counts; over a sequence of merges the first file that defines a key does, after
the store itself. The order of the keys is that in which they came in.
-/
namespace PropertyFiles

def Line.isMalformed : Line → Bool
  | .malformed _ => true
  | _ => false

private theorem Line.isMalformed_iff {line : Line} :
    line.isMalformed ↔ ∃ text, line = .malformed text := by
  cases line with
  | malformed text => exact ⟨fun _ => ⟨text, rfl⟩, fun _ => rfl⟩
  | ignored => simp [isMalformed]
  | property key value => simp [isMalformed]

namespace Document

/-- The value that the last definition of a key gives it. -/
def lastValue? (definitions : List (String × String)) (key : String) : Option String :=
  definitions.reverse.lookup key

/-- The defined keys in the order of their first definitions. -/
def definedKeys (definitions : List (String × String)) : List String :=
  (definitions.map Prod.fst).eraseDups

end Document

namespace FileTree

/-- What the lines of a project's file define, in their order: nothing if there is no file, its bytes
are no text or a line is malformed. -/
def definitions (tree : FileTree) (project : String) (kind : Kind) : List (String × String) :=
  match tree.find? ((Path.ofString project).child kind.fileName) with
  | some (.file bytes) =>
    match String.fromUTF8? bytes with
    | some text =>
      let lines := Text.lines text.toList
      if lines.any fun line => (Line.ofChars line).isMalformed then []
      else lines.filterMap fun line => (Line.ofChars line).property?
    | none => []
  | _ => []

variable {tree : FileTree} {project : String} {kind : Kind}

theorem definitions_of_unreadable (h : tree.Unreadable project kind) :
    tree.definitions project kind = [] := by
  unfold definitions
  rcases h with hnone | hfolder | ⟨bytes, hbytes, hundecodable | ⟨text, htext, hmalformed⟩⟩
  · simp only [hnone]
  · simp only [hfolder]
  · simp only [hbytes, hundecodable]
  · obtain ⟨line, hline, hmessage⟩ := hmalformed
    have hany : (Text.lines text.toList).any fun line => (Line.ofChars line).isMalformed := by
      apply List.any_eq_true.2
      exact ⟨line, hline, Line.isMalformed_iff.2 hmessage⟩
    simp only [hbytes, htext, hany, if_true]

theorem eq_ofList_definitions {properties : OrderedMap String String}
    (h : (tree.loadProject project kind).1 = some properties) :
    properties = .ofList (tree.definitions project kind) := by
  obtain ⟨bytes, hbytes, hdecode⟩ := loadProject_eq_some_iff.1 h
  obtain ⟨text, htext, hread⟩ := Document.decode_eq_ok_iff.1 hdecode
  have hgood := Document.exists_read_iff.1 ⟨properties, hread⟩
  have hany : ((Text.lines text.toList).any fun line => (Line.ofChars line).isMalformed) = false := by
    apply List.any_eq_false.2
    intro line hline hmalformed
    obtain ⟨message, hmessage⟩ := Line.isMalformed_iff.1 hmalformed
    exact hgood line hline message hmessage
  unfold Document.read at hread
  rw [Document.definitions_eq_ok_iff.2 ⟨hgood, rfl⟩] at hread
  obtain rfl := Except.ok.inj hread
  simp only [definitions, hbytes, htext, hany, Bool.false_eq_true, if_false]

theorem unreadable_of_loadProject (h : (tree.loadProject project kind).1 = none) :
    tree.Unreadable project kind := by
  cases hnode : tree.find? ((Path.ofString project).child kind.fileName) with
  | none => exact Or.inl hnode
  | some node =>
    cases node with
    | folder => exact Or.inr (Or.inl hnode)
    | file bytes =>
      refine Or.inr (Or.inr ⟨bytes, hnode, ?_⟩)
      cases htext : String.fromUTF8? bytes with
      | none => exact Or.inl rfl
      | some text =>
        refine Or.inr ⟨text, rfl, ?_⟩
        by_contra hgood
        simp only [not_exists, not_and] at hgood
        obtain ⟨properties, hread⟩ := Document.exists_read_iff.2 hgood
        have hsome : (tree.loadProject project kind).1 = some properties :=
          loadProject_eq_some_iff.2
            ⟨bytes, hnode, Document.decode_eq_ok_iff.2 ⟨text, htext, hread⟩⟩
        rw [h] at hsome
        cases hsome

end FileTree

namespace Store

variable {tree : FileTree} {store : Store} {kind : Kind}

/-- Every file is merged as its definitions, also one that cannot be read. -/
theorem merge_eq_definitions (tree : FileTree) (store : Store) (kind : Kind) :
    (store.merge tree kind).1 = { store with
      properties := (store.properties.mergeMissing
        ((OrderedMap.ofList (tree.definitions store.folder kind)).raw.mapValues some)).map } := by
  cases hload : (tree.loadProject store.folder kind).1 with
  | none =>
    have hnone := FileTree.definitions_of_unreadable (FileTree.unreadable_of_loadProject hload)
    rw [hnone, merge, Prod.fst_eq_iff.1 hload]
    rfl
  | some properties =>
    rw [merge, Prod.fst_eq_iff.1 hload, ← FileTree.eq_ofList_definitions hload]

private theorem get?_merge (tree : FileTree) (store : Store) (kind : Kind) (key : String) :
    (store.merge tree kind).1.get? key = (store.get? key).or
      ((Document.lastValue? (tree.definitions store.folder kind) key).map RawText.ofString) := by
  rw [merge_eq_definitions, get?, OrderedMap.value?_mergeMissing,
    OrderedMap.value?_mapValues_some, OrderedMap.raw, OrderedMap.get?_mapValues,
    OrderedMap.get?_ofList]
  rfl

private theorem keys_merge (tree : FileTree) (store : Store) (kind : Kind) :
    (store.merge tree kind).1.properties.keys = store.properties.keys ++
      (Document.definedKeys (tree.definitions store.folder kind)).filter
        (· ∉ store.properties.keys) := by
  rw [merge_eq_definitions, OrderedMap.keys_mergeMissing, OrderedMap.keys_defined_mapValues_some,
    OrderedMap.raw, OrderedMap.keys_mapValues, OrderedMap.keys_ofList]
  rfl

private theorem merge_eq_self
    (h : ∀ key value, Document.lastValue? (tree.definitions store.folder kind) key = some value →
      (store.get? key).isSome) : (store.merge tree kind).1 = store := by
  rw [merge_eq_definitions, OrderedMap.mergeMissing_of_defined]
  intro key value hvalue
  rw [OrderedMap.value?_mapValues_some, OrderedMap.raw, OrderedMap.get?_mapValues,
    OrderedMap.get?_ofList, Option.map_eq_some_iff] at hvalue
  obtain ⟨text, htext, _⟩ := hvalue
  exact h key text htext

theorem folder_merge (tree : FileTree) (store : Store) (kind : Kind) :
    (store.merge tree kind).1.folder = store.folder := by
  rw [merge_eq_definitions]

theorem kind_merge (tree : FileTree) (store : Store) (kind : Kind) :
    (store.merge tree kind).1.kind = store.kind := by
  rw [merge_eq_definitions]

/-- A merge keeps the entries that it does not fill in, and takes the others from the file. -/
theorem mem_entries_merge {e : String × Option RawText}
    (h : e ∈ (store.merge tree kind).1.properties.entries) :
    e ∈ store.properties.entries ∨ ∃ properties, ∃ entry ∈ properties.entries,
      (tree.loadProject store.folder kind).1 = some properties ∧ e = (entry.1, some ↑entry.2) := by
  cases hload : (tree.loadProject store.folder kind).1 with
  | none =>
    rw [merge, Prod.fst_eq_iff.1 hload] at h
    exact Or.inl h
  | some properties =>
    have hmerge : (store.merge tree kind).1.properties =
        (store.properties.mergeMissing (properties.raw.mapValues some)).map := by
      rw [merge, Prod.fst_eq_iff.1 hload]
    rw [hmerge, OrderedMap.mergeMissing_eq] at h
    rcases OrderedMap.mem_entries_insertAll h with h | h
    · exact Or.inl h
    · obtain ⟨_, hmem, rfl⟩ := List.mem_map.1 (OrderedMap.mem_filled_iff.1 h).1
      obtain ⟨entry, hentry, rfl⟩ := List.mem_map.1 hmem
      exact Or.inr ⟨properties, entry, hentry, rfl, rfl⟩

/-- The store with the files of some kinds merged, one after another. -/
def mergeAll (tree : FileTree) (store : Store) (kinds : List Kind) : Store :=
  kinds.foldl (fun store kind => (store.merge tree kind).1) store

private theorem mergeAll_cons (tree : FileTree) (store : Store) (kind : Kind) (kinds : List Kind) :
    store.mergeAll tree (kind :: kinds) = (store.merge tree kind).1.mergeAll tree kinds := rfl

private theorem mergeAll_append (tree : FileTree) (store : Store) (kinds more : List Kind) :
    store.mergeAll tree (kinds ++ more) = (store.mergeAll tree kinds).mergeAll tree more :=
  List.foldl_append

private theorem folder_mergeAll (tree : FileTree) (store : Store) (kinds : List Kind) :
    (store.mergeAll tree kinds).folder = store.folder := by
  induction kinds generalizing store with
  | nil => rfl
  | cons kind rest ih => rw [mergeAll_cons, ih, folder_merge]

theorem get?_mergeAll (tree : FileTree) (store : Store) (kinds : List Kind) (key : String) :
    (store.mergeAll tree kinds).get? key = (store.get? key).or ((kinds.findSome? fun kind =>
      Document.lastValue? (tree.definitions store.folder kind) key).map RawText.ofString) := by
  -- For any store, since each merge leads to the store that the next one starts from.
  induction kinds generalizing store with
  | nil => rw [List.findSome?_nil, Option.map_none, Option.or_none]; rfl
  | cons kind rest ih =>
    rw [mergeAll_cons, ih, get?_merge, folder_merge, Option.or_assoc, List.findSome?_cons]
    cases Document.lastValue? (tree.definitions store.folder kind) key <;> rfl

theorem keys_mergeAll (tree : FileTree) (store : Store) (kinds : List Kind) :
    (store.mergeAll tree kinds).properties.keys = kinds.foldl (fun keys kind => keys ++
      (Document.definedKeys (tree.definitions store.folder kind)).filter (· ∉ keys))
      store.properties.keys := by
  induction kinds generalizing store with
  | nil => rfl
  | cons kind rest ih => rw [mergeAll_cons, ih, keys_merge, folder_merge, List.foldl_cons]

/-- What defines nothing new may be left out of a sequence of merges. -/
theorem mergeAll_drop {before rest : List Kind}
    (h : tree.Unreadable store.folder kind ∨ kind ∈ before) :
    store.mergeAll tree (before ++ kind :: rest) = store.mergeAll tree (before ++ rest) := by
  have hself : ((store.mergeAll tree before).merge tree kind).1 = store.mergeAll tree before := by
    apply merge_eq_self
    rw [folder_mergeAll]
    intro key value hvalue
    rcases h with hunreadable | hbefore
    · rw [FileTree.definitions_of_unreadable hunreadable] at hvalue
      cases hvalue
    · have hfound : (before.findSome? fun kind =>
          Document.lastValue? (tree.definitions store.folder kind) key).isSome := by
        apply List.findSome?_isSome_iff.2
        exact ⟨kind, hbefore, by rw [hvalue]; rfl⟩
      rw [get?_mergeAll, Option.isSome_or, Option.isSome_map, hfound, Bool.or_true]
  rw [mergeAll_append, mergeAll_append, mergeAll_cons, hself]

theorem merge_of_load {folder : String} (h : (load tree folder kind).1 = some store) :
    (store.merge tree kind).1 = store := by
  obtain ⟨properties, hproperties, rfl⟩ := load_eq_some_iff.1 h
  apply merge_eq_self
  intro key value hvalue
  have hget : properties.get? key = some value := by
    rw [FileTree.eq_ofList_definitions hproperties, OrderedMap.get?_ofList]
    exact hvalue
  rw [get?, OrderedMap.value?_mapValues_some, OrderedMap.raw, OrderedMap.get?_mapValues, hget]
  rfl

end Store

end PropertyFiles
