import PropertyFiles.Proofs.Document.Entries
import PropertyFiles.Proofs.Store.RoundTrip
/-!
# Loading a file

A file loads if its bytes are a text and every line of the text is well formed. What it loads as is all
that its lines define; otherwise nothing is loaded, and the first line that is not well formed is reported.
-/
namespace PropertyFiles

open Text

namespace Document

private theorem read_eq_ok_iff {text : String} {properties : OrderedMap String String} :
    read text = .ok properties ↔
      ∃ entries, Lists (lines text.toList) entries ∧ properties = .ofList entries := by
  have hunbroken := (splits_lines text.toList).unbroken
  simp only [← @definitions_eq_ok_iff_lists _ 1 hunbroken]
  unfold read
  cases definitions 1 (lines text.toList) <;> simp [eq_comm]

private theorem read_eq_error_iff {text : String} {malformed : Malformed} :
    read text = .error malformed ↔ ∃ before line after,
      lines text.toList = before ++ line :: after ∧
        (∀ earlier ∈ before, Line.IsWellFormed earlier) ∧ ¬ Line.IsWellFormed line ∧
        malformed = ⟨before.length + 1, String.ofList line⟩ := by
  have hunbroken := (splits_lines text.toList).unbroken
  simp only [Nat.add_comm _ 1, ← definitions_eq_error_iff hunbroken]
  unfold read
  cases definitions 1 (lines text.toList) <;> simp

end Document

namespace FileTree
variable {tree : FileTree} {path : Path}

theorem loadProperties_of_text {text : String} (h : tree.readFile path = .ok text.toUTF8) :
    tree.loadProperties path = match Document.read text with
      | .ok properties => (some properties, [.loaded properties.size path])
      | .error malformed => (none, [.malformed path malformed]) := by
  simp only [loadProperties, h, Document.decode, fromUTF8?_toUTF8]
  cases Document.read text <;> rfl

private theorem loadProperties_of_not_text {bytes : ByteArray} (h : tree.readFile path = .ok bytes)
    (hnone : ∀ text : String, bytes ≠ text.toUTF8) :
    tree.loadProperties path = (none, [.undecodable path]) := by
  have hdecode : String.fromUTF8? bytes = none := by
    apply Option.eq_none_iff_forall_ne_some.2
    intro text htext
    exact hnone text (fromUTF8?_eq_some_iff.1 htext)
  simp only [loadProperties, h, Document.decode, hdecode]

/-- A file loads all or nothing. Bytes that are no text load as nothing. A text is split into lines in one
way, and loads exactly if all of them are well formed: then the keys come in the order of their first
definitions, and each has the value of its last. If a line is not well formed nothing is loaded, and a
warning tells the number of the first such line, counted from one, and the line. -/
theorem loadProperties_of_file {bytes : ByteArray} (hfile : tree.readFile path = .ok bytes) :
    ((∀ text : String, bytes ≠ text.toUTF8) → (tree.loadProperties path).1 = none) ∧
    ∀ text : String, bytes = text.toUTF8 → ∃ lines,
      (∀ other, Splits text.toList other ↔ other = lines) ∧
      ((∃ properties, (tree.loadProperties path).1 = some properties) ↔
        ∀ line ∈ lines, Line.IsWellFormed line) ∧
      (∀ properties, (tree.loadProperties path).1 = some properties →
        ∃ entries, Document.Lists lines entries ∧
          properties.keys = (entries.map Prod.fst).eraseDups ∧
          ∀ key value, properties.get? key = some value ↔
            ∃ before after, entries = before ++ (key, value) :: after ∧ key ∉ after.map Prod.fst) ∧
      ((tree.loadProperties path).1 = none → ∃ before line after,
        lines = before ++ line :: after ∧ (∀ earlier ∈ before, Line.IsWellFormed earlier) ∧
          ¬ Line.IsWellFormed line ∧ ∃ notice, (tree.loadProperties path).2 = [notice] ∧
            notice.level = .warning ∧
            notice.text = "Error parsing " ++ path.text ++ ": line " ++
              toString (before.length + 1) ++ ": invalid property line " ++
              quoted (String.ofList line)) := by
  constructor
  · intro hnone
    rw [loadProperties_of_not_text hfile hnone]
  rintro text rfl
  rw [loadProperties_of_text hfile]
  refine ⟨lines text.toList, fun other => splits_iff, ?_⟩
  cases hread : Document.read text with
  | ok properties =>
    obtain ⟨entries, hlists, hproperties⟩ := Document.read_eq_ok_iff.1 hread
    refine ⟨⟨fun _ => hlists.isWellFormed, fun _ => ⟨properties, rfl⟩⟩, ?_, nofun⟩
    rintro _ ⟨⟩
    rw [hproperties]
    exact ⟨entries, hlists, OrderedMap.keys_ofList entries,
      fun key value => OrderedMap.get?_ofList_eq_some_iff⟩
  | error malformed =>
    obtain ⟨before, line, after, hlines, hbefore, hline, rfl⟩ := Document.read_eq_error_iff.1 hread
    refine ⟨⟨nofun, fun hall => absurd (hall line (by simp [hlines])) hline⟩, nofun, fun _ => ?_⟩
    exact ⟨before, line, after, hlines, hbefore, hline, _, rfl, rfl, rfl⟩

theorem loadProperties_of_file_of_mixed_breaks :
    let text := "# a\r\n\r a = 1\u2028\nb:2\rc\n"
    let path := Path.ofString "p/default.properties"
    let tree := (emptyAt "work").place path (.file text.toUTF8)
    tree.readFile path = .ok text.toUTF8 ∧ ∃ lines,
      (∀ other, Splits text.toList other ↔ other = lines) ∧ ∃ before line after,
        lines = before ++ line :: after ∧ (∀ earlier ∈ before, Line.IsWellFormed earlier) ∧
          ¬ Line.IsWellFormed line ∧ ∃ notice, (tree.loadProperties path).2 = [notice] ∧
            notice.text = "Error parsing p/default.properties: line 4: invalid property line 'b:2'" := by
  intro text path tree
  have hfile : tree.readFile path = .ok text.toUTF8 := by rfl
  obtain ⟨lines, hlines, _, _, hfirst⟩ := (loadProperties_of_file hfile).2 text rfl
  have hnone : (tree.loadProperties path).1 = none := by decide +kernel
  obtain ⟨before, line, after, heq, hbefore, hline, notice, hnotice, _, _⟩ := hfirst hnone
  have htexts : (tree.loadProperties path).2.map Notice.text =
      ["Error parsing p/default.properties: line 4: invalid property line 'b:2'"] := by
    decide +kernel
  rw [hnotice] at htexts
  exact ⟨hfile, lines, hlines, before, line, after, heq, hbefore, hline, notice, hnotice,
    (List.cons.inj htexts).1⟩

end FileTree
end PropertyFiles
