import PropertyFiles.Proofs.Command.Editing
import PropertyFiles.Proofs.Listing.Json
import PropertyFiles.Proofs.Listing.Plain
import PropertyFiles.Proofs.Store.Overlaying
/-!
# What listings carry

A listing succeeds exactly if the file of its kind loads and its pattern can be read. It carries the
properties that the file and those merged into it define and that the filter accepts. Each format can be
read back: JSON without any loss, and plain lines up to the control sequences that are not shown.
-/
namespace PropertyFiles

private theorem FileTree.definitions_text (tree : FileTree) (project : String) :
    tree.definitions (Path.ofString project).text = tree.definitions project := by
  funext kind
  simp only [definitions, Path.ofString_text_ofString]

private theorem Filter.ofPattern_isOk_iff {read : PatternReader} {pattern leading : Option String} :
    (ofPattern read pattern leading).isOk ↔ ∀ text ∈ pattern, (read text).isOk := by
  cases pattern with
  | none => simp [ofPattern, Except.isOk, Except.toBool]
  | some text =>
    cases hread : read text <;> simp [ofPattern, hread, Except.isOk, Except.toBool, Except.map]

private theorem OrderedMap.texts?_raw (m : OrderedMap String String) : m.raw.texts? = some m := by
  have hall : m.raw.entries.all (·.2.text?.isSome) := by
    apply List.all_eq_true.2
    intro e he
    obtain ⟨entry, _, rfl⟩ := List.mem_map.1 he
    rw [RawText.text?_ofString]
    rfl
  have hsame : (m.raw.mapValues fun value => value.text?.getD "") = m := by
    rw [raw, mapValues_mapValues]
    simp only [Function.comp_def, RawText.text?_ofString, Option.getD_some]
    exact mapValues_id m
  rw [texts?, if_pos hall, hsame]

namespace Command

section Listings
variable {read : PatternReader} {tree : FileTree} {words : List RawText} {project : String}
  {kind : Kind}

/-- A command finds what loads; only the folder is spelled anew. -/
private theorem load_text_eq (tree : FileTree) (project : String) (kind : Kind) :
    (Store.load tree (Path.ofString project).text kind).1 =
      (Store.load tree project kind).1.map ({ · with folder := (Path.ofString project).text }) := by
  rw [load_text, FileTree.properties?_fileState, Store.load]
  rcases tree.loadProject project kind with ⟨_ | properties, notices⟩ <;> rfl

/-- The properties that a listing shows of a store. -/
def shown (tree : FileTree) (store : Store) (merges : List Kind) (filter : Filter) :
    OrderedMap String String :=
  filter.select (store.mergeAll tree merges).texts

section Shown
variable {store : Store} (hload : (Store.load tree (Path.ofString project).text kind).1 = some store)
  (merges : List Kind) (filter : Filter)
include hload

/-- The values of a loaded store are texts, so that they can be printed. -/
private theorem texts?_select : (filter.select (store.mergeAll tree merges).properties.defined).texts? =
    some (shown tree store merges filter) := by
  have hlegible := (Store.isLegible_of_load hload).mergeAll tree merges
  rw [Filter.select, ← hlegible.raw_texts, OrderedMap.raw, ← OrderedMap.mapValues_filterKeys]
  exact OrderedMap.texts?_raw (shown tree store merges filter)

private theorem keys_shown : (shown tree store merges filter).keys =
    (Document.definedKeys ((kind :: merges).flatMap (tree.definitions project))).filter
      filter.accepts := by
  have hlegible := (Store.isLegible_of_load hload).mergeAll tree merges
  rw [shown, Filter.select, OrderedMap.keys_filterKeys, hlegible.keys_texts,
    Store.keys_mergeAll_of_load hload, FileTree.definitions_text]

private theorem get?_shown (key : String) : (shown tree store merges filter).get? key =
    if filter.accepts key then (kind :: merges).findSome? fun kind =>
      Document.lastValue? (tree.definitions project kind) key
    else none := by
  have hget := Store.get?_mergeAll_of_load hload merges key
  rw [FileTree.definitions_text] at hget
  rw [shown, Filter.select, OrderedMap.get?_filterKeys, Store.get?_texts, hget, Option.map_map]
  simp only [Function.comp_def, RawText.shown_ofString, Option.map_id']

theorem isKey_isValue_of_mem_shown {e : String × String}
    (he : e ∈ (shown tree store merges filter).entries) : isKey e.1 ∧ Line.IsValue e.2 :=
  ((Store.isLegible_of_load hload).mergeAll tree merges).isKey_isValue (List.mem_of_mem_filter he)

end Shown

section List
variable {merges : List Kind} {pattern leading : Option String} {format : Format}
  (h : Spells words project kind (.list merges pattern leading format))
include h

theorem run_list_of_load {store : Store} {filter : Filter}
    (hload : (Store.load tree (Path.ofString project).text kind).1 = some store)
    (hfilter : Filter.ofPattern read pattern leading = .ok filter) :
    (run read tree words).status = 0 ∧
      (run read tree words).output = printed format (shown tree store merges filter) := by
  apply run_of_success h
  intro verbose
  have htexts := texts?_select hload merges filter
  rw [← fst_mergeAll] at htexts
  simp only [execute]
  rw [withStore_of_load hload]
  simp only [hfilter, print, htexts]

theorem status_run_list_of_not (hnot : (Store.load tree (Path.ofString project).text kind).1 = none ∨
    ¬ (Filter.ofPattern read pattern leading).isOk) : (run read tree words).status = 1 := by
  refine (run_of_not_success h fun verbose => ?_).1
  simp only [execute]
  cases hload : (Store.load tree (Path.ofString project).text kind).1 with
  | none => exact withStore_of_load_none hload
  | some store =>
    rw [hload] at hnot
    rw [withStore_of_load hload]
    rcases hfilter : Filter.ofPattern read pattern leading with (_ | _) | filter
    · rfl
    · rfl
    · rw [hfilter] at hnot
      simp [Except.isOk, Except.toBool] at hnot

private theorem status_run_list_iff : (run read tree words).status = 0 ↔
    (Store.load tree project kind).1.isSome ∧ ∀ text ∈ pattern, (read text).isOk := by
  have htext := load_text_eq tree project kind
  rw [← @Filter.ofPattern_isOk_iff read pattern leading]
  cases hload : (Store.load tree project kind).1 with
  | none =>
    rw [hload] at htext
    simp [status_run_list_of_not h (Or.inl htext)]
  | some store =>
    rw [hload] at htext
    cases hfilter : Filter.ofPattern read pattern leading with
    | error fault =>
      have hnot : ¬ (Filter.ofPattern read pattern leading).isOk := by
        rw [hfilter]
        exact Bool.false_ne_true
      simp [status_run_list_of_not h (Or.inr hnot), Except.isOk, Except.toBool]
    | ok filter => simp [(run_list_of_load h htext hfilter).1, Except.isOk, Except.toBool]

end List

section Configurations
variable (h : Spells words project kind .configurations)
include h

private theorem run_configurations_of_load {store : Store}
    (hload : (Store.load tree project kind).1 = some store) :
    let configurations := store.configurations.mapValues RawText.shown
    configurations.raw = store.configurations ∧ (run read tree words).status = 0 ∧
      (run read tree words).output = Listing.Json.object configurations ++ "\n" := by
  have htext := load_text_eq tree project kind
  rw [hload] at htext
  have hraw := (Store.isLegible_of_load hload).raw_configurations
  have htexts := OrderedMap.texts?_raw (store.configurations.mapValues RawText.shown)
  rw [hraw] at htexts
  refine ⟨hraw, run_of_success h fun verbose => ?_⟩
  simp only [execute]
  rw [withStore_of_load htext]
  change print tree .json store.configurations = _
  rw [print, htexts]
  rfl

private theorem status_run_configurations_of_none (hload : (Store.load tree project kind).1 = none) :
    (run read tree words).status = 1 := by
  have htext := load_text_eq tree project kind
  rw [hload] at htext
  refine (run_of_not_success h fun verbose => ?_).1
  simp only [execute]
  exact withStore_of_load_none htext

end Configurations

end Listings

/-- Listings carry exactly the properties that are asked for, however patterns are read. A listing succeeds
exactly if the file of its kind loads and its pattern, unless empty, can be read. Then the keys are those
that the file and the merged ones define and that the filter accepts, in the order of their first
definitions, each with the value that the first of these files gives it. The plain lines read as these keys
and the values as they are shown, and a value without an escape character is shown as it is. The JSON text
is plain ASCII and reads as these entries themselves, and so does that of the configurations, for the store
that loads. -/
theorem listings_carry_entries (read : PatternReader) (tree : FileTree) (project : String)
    (kind : Kind) :
    (∀ merges pattern leading format,
      Spells (listWords project kind merges pattern leading format) project kind
        (.list merges (pattern.filter (· ≠ "")) (leading.filter (· ≠ "")) format)) ∧
    (∀ merges pattern leading format words,
      Spells words project kind (.list merges pattern leading format) →
        ((run read tree words).status = 0 ↔ (Store.load tree project kind).1.isSome ∧
          ∀ text ∈ pattern, (read text).isOk)) ∧
    (∀ merges pattern leading filter, (Store.load tree project kind).1.isSome →
      Filter.ofPattern read pattern leading = .ok filter →
        let definitions := tree.definitions project
        let kinds := kind :: merges
        ∃ entries : OrderedMap String String,
          entries.keys = (Document.definedKeys (kinds.flatMap definitions)).filter filter.accepts ∧
          (∀ key, entries.get? key = if filter.accepts key then
            kinds.findSome? fun kind => Document.lastValue? (definitions kind) key else none) ∧
          (∀ words, Spells words project kind (.list merges pattern leading .plain) →
            Document.read (run read tree words).output = .ok (entries.mapValues Listing.visible)) ∧
          (∀ e ∈ entries.entries, '\x1b' ∉ e.2.toList → Listing.visible e.2 = e.2) ∧
          ∀ words, Spells words project kind (.list merges pattern leading .json) →
            (∀ c ∈ (run read tree words).output.toList, Listing.Json.isPlain c) ∧
              Listing.Json.decode? (run read tree words).output = some entries.entries) ∧
    ∀ words, Spells words project kind .configurations →
      ((run read tree words).status = 0 ↔ (Store.load tree project kind).1.isSome) ∧
      ∀ store, (Store.load tree project kind).1 = some store →
        ∃ configurations : OrderedMap String String, configurations.raw = store.configurations ∧
          (∀ c ∈ (run read tree words).output.toList, Listing.Json.isPlain c) ∧
          Listing.Json.decode? (run read tree words).output = some configurations.entries := by
  refine ⟨spells_list project kind, fun _ _ _ _ _ h => status_run_list_iff h, ?_, ?_⟩
  · intro merges pattern leading filter hsome hfilter definitions kinds
    obtain ⟨store, hload⟩ := Option.isSome_iff_exists.1 hsome
    have htext := load_text_eq tree project kind
    rw [hload] at htext
    refine ⟨shown tree _ merges filter, keys_shown htext merges filter,
      get?_shown htext merges filter, ?_, ?_, ?_⟩
    · intro words h
      rw [(run_list_of_load h htext hfilter).2]
      exact Listing.read_plain fun e => isKey_isValue_of_mem_shown htext merges filter
    · intro e he hescape
      exact Listing.visible_of_no_escape hescape (isKey_isValue_of_mem_shown htext merges filter he).2
    · intro words h
      rw [(run_list_of_load h htext hfilter).2]
      exact Listing.Json.decode?_object _
  · intro words h
    constructor
    · cases hload : (Store.load tree project kind).1 with
      | none => simp [status_run_configurations_of_none h hload]
      | some store => simp [(run_configurations_of_load h hload).2.1]
    · intro store hload
      obtain ⟨hraw, _, houtput⟩ := run_configurations_of_load h hload
      refine ⟨_, hraw, ?_⟩
      rw [houtput]
      exact Listing.Json.decode?_object _

/-- Two files with characters that JSON escapes, a filter with both conditions, and a configuration. -/
theorem listings_carry_entries_of_two_files :
    let tree := ((FileTree.emptyAt "work").place (Path.ofString "default.properties")
      (.file "apk-config-fr=\x7f\napk-configurations = fr,\nab==\x01\u2028\\ #\x22\n".toUTF8)).place
      (Path.ofString "local.properties") (.file "ab=2\nac=\u00e9𝄞\nad=3\n".toUTF8)
    let run := run Pattern.reader tree
    let plainWords := listWords "" .default [.machine] (some "a[bc]$") (some "a") .plain
    let jsonWords := listWords "" .default [.machine] (some "a[bc]$") (some "a") .json
    (Store.load tree "" .default).1.isSome ∧
      (∀ text ∈ some "a[bc]$", (Pattern.reader text).isOk) ∧
      (run plainWords).status = 0 ∧
      ∃ entries : OrderedMap String String, entries.keys = ["ab", "ac"] ∧
        entries.get? "ab" = some "=\x01\u2028\\ #\x22" ∧
        Document.read (run plainWords).output = .ok (entries.mapValues Listing.visible) ∧
        Listing.Json.decode? (run jsonWords).output = some entries.entries ∧
        Listing.Json.decode? (run ["apk-configs", "--type", Kind.default.word, "--project", ""]).output =
            some [("fr", "\x7f")] := by
  intro tree run plainWords jsonWords
  have hload : (Store.load tree "" .default).1.isSome := by decide +kernel
  have hok : ∀ text ∈ some "a[bc]$", (Pattern.reader text).isOk := by decide +kernel
  have hfilter : Filter.ofPattern Pattern.reader (some "a[bc]$") (some "a") =
      .ok ((Filter.ofPattern Pattern.reader (some "a[bc]$") (some "a")).toOption.getD {}) := by
    have hfilter := (@Filter.ofPattern_isOk_iff _ _ (some "a")).2 hok
    cases hcases : Filter.ofPattern Pattern.reader (some "a[bc]$") (some "a") with
    | error fault => simp [hcases, Except.isOk, Except.toBool] at hfilter
    | ok filter => rfl
  have hfound : ((Store.load tree "" .default).1.bind (·.configurations.texts?)).map (·.entries) =
      some [("fr", "\x7f")] := by decide +kernel
  obtain ⟨texts, hbind, htexts⟩ := Option.map_eq_some_iff.1 hfound
  obtain ⟨store, hstore, hconfigurations⟩ := Option.bind_eq_some_iff.1 hbind
  obtain ⟨hspells, hstatus, hentries, hjsons⟩ :=
    listings_carry_entries Pattern.reader tree "" .default
  have hplain := hspells [.machine] (some "a[bc]$") (some "a") .plain
  have hjson := hspells [.machine] (some "a[bc]$") (some "a") .json
  obtain ⟨entries, hkeys, hget, hread, _, hdecode⟩ :=
    hentries [.machine] (some "a[bc]$") (some "a") _ hload hfilter
  obtain ⟨configurations, hraw, _, hshown⟩ :=
    (hjsons _ (spells_configurations "" .default)).2 store hstore
  rw [← hraw, OrderedMap.texts?_raw, Option.some_inj] at hconfigurations
  refine ⟨hload, hok, ?_, entries, ?_, ?_, hread _ hplain, (hdecode _ hjson).2, ?_⟩
  · exact (hstatus _ _ _ _ _ hplain).2 ⟨hload, hok⟩
  · rw [hkeys]
    decide +kernel
  · rw [hget]
    decide +kernel
  · rw [← htexts, ← hconfigurations]
    exact hshown

/-- A control sequence in a value is not shown, so the plain lines do not read as the value itself. -/
theorem listing_not_verbatim :
    let tree := (FileTree.emptyAt "work").place (Path.ofString "default.properties")
      (.file "k=a\x1b[1mb\n".toUTF8)
    let shown := run Pattern.reader tree ["show"]
    shown.status = 0 ∧
      (tree.loadProject "" .default).1 = some (.ofList [("k", "a\x1b[1mb")]) ∧
      Document.read shown.output ≠ .ok (.ofList [("k", "a\x1b[1mb")]) := by
  intro tree shown
  have hread : Document.read shown.output = .ok (.ofList [("k", "ab")]) := by
    decide +kernel
  refine ⟨by decide +kernel, by decide +kernel, ?_⟩
  rw [hread]
  decide

end Command
end PropertyFiles
