import PropertyFiles.Proofs.Store.Loading
import PropertyFiles.Proofs.Text.Endings
/-!
# Joining files and rewriting their breaks

What a file loads as depends on those of its lines that are not empty. So a file that was joined from two
loads as the first one updated by the second, wherever the first ends with a line end, and it does not
matter how lines are ended.
-/
namespace PropertyFiles

open Text

namespace Document

def read? (text : String) : Option (OrderedMap String String) :=
  (read text).toOption

/-- Whether a line is malformed is asked of the lines that are not empty, and so is what they define. -/
private theorem read?_eq_some_iff {text : String} {properties : OrderedMap String String} :
    read? text = some properties ↔
      (∀ line ∈ nonemptyLines text.toList, ∀ message, Line.ofChars line ≠ .malformed message) ∧
        properties = .ofList
          ((nonemptyLines text.toList).filterMap fun line => (Line.ofChars line).property?) := by
  have hempty : Line.ofChars [] = .ignored := rfl
  have hgood : (∀ line ∈ nonemptyLines text.toList, ∀ message,
      Line.ofChars line ≠ .malformed message) ↔
        ∀ line ∈ lines text.toList, ∀ message, Line.ofChars line ≠ .malformed message := by
    constructor
    · intro h line hline
      by_cases hne : line = []
      · simp [hne, hempty]
      · exact h line (List.mem_filter.2 ⟨hline, decide_eq_true hne⟩)
    · intro h line hline
      exact h line (List.mem_of_mem_filter hline)
  have hentries : ((nonemptyLines text.toList).filterMap fun line => (Line.ofChars line).property?) =
      (lines text.toList).filterMap fun line => (Line.ofChars line).property? := by
    rw [nonemptyLines, List.filterMap_filter]
    apply List.filterMap_congr
    intro line _
    by_cases hne : line = []
    · simp [hne, hempty, Line.property?]
    · simp [hne]
  have hdefinitions := @definitions_eq_ok_iff 1 (lines text.toList)
  rw [hgood, hentries, read?, read]
  cases hresult : definitions 1 (lines text.toList) with
  | ok entries =>
    obtain ⟨hall, rfl⟩ := hdefinitions.1 hresult
    simp only [Except.toOption, Option.some.injEq]
    exact ⟨fun h => ⟨hall, h.symm⟩, fun h => h.2.symm⟩
  | error malformed =>
    simp only [Except.toOption, reduceCtorEq, false_iff]
    rintro ⟨hall, _⟩
    rw [hdefinitions.2 ⟨hall, rfl⟩] at hresult
    cases hresult

private theorem read?_isSome_iff {text : String} :
    (read? text).isSome ↔
      ∀ line ∈ nonemptyLines text.toList, ∀ message, Line.ofChars line ≠ .malformed message := by
  rw [Option.isSome_iff_exists]
  simp only [read?_eq_some_iff, exists_and_left, exists_eq, and_true]

private theorem read?_congr {text other : String}
    (h : nonemptyLines other.toList = nonemptyLines text.toList) : read? other = read? text := by
  refine Option.ext fun properties => ?_
  rw [read?_eq_some_iff, read?_eq_some_iff, h]

section Joining
variable {text more : String} (h : ∀ c ∈ text.toList.getLast?, isBreak c)
include h

private theorem read?_append_isSome_iff :
    (read? (text ++ more)).isSome ↔ (read? text).isSome ∧ (read? more).isSome := by
  rw [read?_isSome_iff, read?_isSome_iff, read?_isSome_iff, String.toList_append,
    nonemptyLines_append h, List.forall_mem_append]

private theorem read?_append {first second : OrderedMap String String} (hfirst : read? text = some first)
    (hsecond : read? more = some second) : ∃ whole, read? (text ++ more) = some whole ∧
      whole.keys = first.keys ++ second.keys.filter (· ∉ first.keys) ∧
      ∀ key, whole.get? key = (second.get? key).or (first.get? key) := by
  obtain ⟨hgood, rfl⟩ := read?_eq_some_iff.1 hfirst
  obtain ⟨hgood', rfl⟩ := read?_eq_some_iff.1 hsecond
  have hlines := nonemptyLines_append h more.toList
  rw [← String.toList_append] at hlines
  refine ⟨_, read?_eq_some_iff.2 ⟨?_, rfl⟩, ?_, ?_⟩
  · rw [hlines]
    exact List.forall_mem_append.2 ⟨hgood, hgood'⟩
  · rw [hlines, List.filterMap_append, OrderedMap.ofList, OrderedMap.insertAll_append,
      OrderedMap.keys_insertAll, OrderedMap.eraseDups_filter, ← OrderedMap.keys_ofList]
    rfl
  · intro key
    rw [hlines, List.filterMap_append, OrderedMap.ofList, OrderedMap.insertAll_append,
      OrderedMap.get?_insertAll, ← OrderedMap.get?_ofList]
    rfl

end Joining

end Document

/-- Files may be joined where a line ends, and lines may be ended in any way. A file that holds a text
followed by another one loads exactly if each of them does alone; then the keys of the first keep their
places, the new ones of the second follow, and the second one's values count. Writing each break of a
text anew, in any of the three ways, does not change what it loads as. -/
theorem FileTree.loadProperties_of_joined :
    (∀ (tree : FileTree) path text, tree.readFile path = .ok text.toUTF8 →
      (tree.loadProperties path).1 = Document.read? text) ∧
    (∀ text more : String, (∀ c ∈ text.toList.getLast?, isBreak c) →
      (Document.read? (text ++ more) = none ↔
        Document.read? text = none ∨ Document.read? more = none) ∧
      ∀ first second, Document.read? text = some first → Document.read? more = some second →
        ∃ whole, Document.read? (text ++ more) = some whole ∧
          whole.keys = first.keys ++ second.keys.filter (· ∉ first.keys) ∧
          ∀ key, whole.get? key = (second.get? key).or (first.get? key)) ∧
    ∀ (style : Nat → Ending) (text : String),
      Document.read? (String.ofList (rebreak style 0 text.toList)) = Document.read? text := by
  refine ⟨?_, ?_, ?_⟩
  · intro tree path text hfile
    rw [loadProperties_of_text hfile, Document.read?]
    cases Document.read text <;> rfl
  · intro text more hend
    refine ⟨?_, fun first second => Document.read?_append hend⟩
    rw [← Option.not_isSome_iff_eq_none, Document.read?_append_isSome_iff hend, not_and_or,
      Option.not_isSome_iff_eq_none, Option.not_isSome_iff_eq_none]
  · intro style text
    apply Document.read?_congr
    rw [String.toList_ofList, nonemptyLines_rebreak]

/-- The first text ends with a carriage return and the second begins with a line feed. -/
theorem FileTree.loadProperties_of_joined_of_split_break :
    let text := "a=1\n# c\r\nb=2\r"
    let more := "\n b = 3\rc=4"
    let path := Path.ofString "p/default.properties"
    let tree := (emptyAt "work").place path (.file (text ++ more).toUTF8)
    let style : Nat → Ending := fun n => if n = 1 then .return else .feed
    (∀ c ∈ text.toList.getLast?, isBreak c) ∧ tree.readFile path = .ok (text ++ more).toUTF8 ∧
      (∃ whole, (tree.loadProperties path).1 = some whole ∧ whole.keys = ["a", "b", "c"] ∧
        whole.get? "b" = some "3") ∧
      Document.read? (String.ofList (rebreak style 0 text.toList)) =
        some (.ofList [("a", "1"), ("b", "2")]) := by
  intro text more path tree style
  have hend : ∀ c ∈ text.toList.getLast?, isBreak c := by
    have hlast : text.toList.getLast? = some '\r' := by decide
    rw [hlast]
    rintro c ⟨⟩
    rfl
  have hfile : tree.readFile path = .ok (text ++ more).toUTF8 := by rfl
  have hfirst : Document.read? text = some (.ofList [("a", "1"), ("b", "2")]) := by decide +kernel
  have hsecond : Document.read? more = some (.ofList [("b", "3"), ("c", "4")]) := by decide +kernel
  obtain ⟨hload, hjoin, hstyle⟩ := loadProperties_of_joined
  obtain ⟨whole, hwhole, hkeys, hvalue⟩ := (hjoin text more hend).2 _ _ hfirst hsecond
  refine ⟨hend, hfile, ⟨whole, ?_, ?_, ?_⟩, ?_⟩
  · rw [hload tree path (text ++ more) hfile, hwhole]
  · rw [hkeys]
    decide
  · rw [hvalue]
    decide
  · rw [hstyle, hfirst]

end PropertyFiles
