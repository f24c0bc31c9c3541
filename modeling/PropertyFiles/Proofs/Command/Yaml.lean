import PropertyFiles.Proofs.Command.Listing
import PropertyFiles.Proofs.Listing.Yaml.Entries
/-!
# What YAML listings carry

A YAML listing loses nothing of the map that it shows: a reader that only knows the format finds the same
keys and values in the same order, and takes none of them for anything but text.
-/
namespace PropertyFiles

namespace Listing.Yaml

private theorem ofText_injective : Function.Injective Node.ofText := fun _ _ h => congrArg Node.text h

/-- Equal listings are listings of equal maps. -/
private theorem eq_of_mapping_eq {p q : OrderedMap String String} (hp : ∀ e ∈ p.entries, isKey e.1)
    (hq : ∀ e ∈ q.entries, isKey e.1) (h : mapping p = mapping q) : p = q := by
  have hread := read?_mapping p hp
  rw [h, read?_mapping q hq, Option.some_inj] at hread
  have hinjective : Function.Injective (fun e : String × String => (Node.ofText e.1, Node.ofText e.2)) :=
    ofText_injective.prodMap ofText_injective
  exact OrderedMap.ext (List.map_injective_iff.2 hinjective hread).symm

end Listing.Yaml

namespace Command

/-- The properties that a listing shows, if the file of its kind loads and its pattern can be read. -/
def listed? (read : PatternReader) (tree : FileTree) (project : String) (kind : Kind)
    (merges : List Kind) (pattern leading : Option String) : Option (OrderedMap String String) := do
  let store ← (Store.load tree (Path.ofString project).text kind).1
  let filter ← (Filter.ofPattern read pattern leading).toOption
  return shown tree store merges filter

section Listed
variable {read : PatternReader} {tree : FileTree} {words : List RawText} {project : String}
  {kind : Kind} {merges : List Kind} {pattern leading : Option String} {format : Format}
  {properties : OrderedMap String String}

private theorem listed?_eq_some_iff :
    listed? read tree project kind merges pattern leading = some properties ↔
      ∃ store filter, (Store.load tree (Path.ofString project).text kind).1 = some store ∧
        Filter.ofPattern read pattern leading = .ok filter ∧
        shown tree store merges filter = properties := by
  cases hfilter : Filter.ofPattern read pattern leading <;>
    simp [listed?, hfilter, Except.toOption, Option.bind_eq_some_iff]

private theorem isKey_isValue_of_listed?
    (h : listed? read tree project kind merges pattern leading = some properties) :
    ∀ e ∈ properties.entries, isKey e.1 ∧ Line.IsValue e.2 := by
  obtain ⟨store, filter, hload, _, rfl⟩ := listed?_eq_some_iff.1 h
  exact fun e => isKey_isValue_of_mem_shown hload merges filter

private theorem listed?_eq_none_iff : listed? read tree project kind merges pattern leading = none ↔
    (Store.load tree (Path.ofString project).text kind).1 = none ∨
      ¬ (Filter.ofPattern read pattern leading).isOk := by
  unfold listed?
  cases (Store.load tree (Path.ofString project).text kind).1 <;>
    cases Filter.ofPattern read pattern leading <;>
    simp [Except.toOption, Except.isOk, Except.toBool]

section Run
variable (hwords : Spells words project kind (.list merges pattern leading format))
include hwords

private theorem output_of_listed?
    (h : listed? read tree project kind merges pattern leading = some properties) :
    (run read tree words).output = printed format properties := by
  obtain ⟨store, filter, hload, hfilter, rfl⟩ := listed?_eq_some_iff.1 h
  exact (run_list_of_load hwords hload hfilter).2

private theorem status_eq_zero_iff_listed? : (run read tree words).status = 0 ↔
    (listed? read tree project kind merges pattern leading).isSome := by
  cases hlisted : listed? read tree project kind merges pattern leading with
  | none => simp [status_run_list_of_not hwords (listed?_eq_none_iff.1 hlisted)]
  | some properties =>
    obtain ⟨store, filter, hload, hfilter, rfl⟩ := listed?_eq_some_iff.1 hlisted
    simp [(run_list_of_load hwords hload hfilter).1]

end Run
end Listed

/-- A YAML listing loses nothing. It reads as the keys and values of its map in their order, all of them
text and nothing of another type, and maps with equal listings are equal. The commands that print such a
listing are those whose properties can be listed; these have keys and values that a file can hold. Texts
in double quotes count as never folded. -/
theorem yaml_listings_lossless :
    (∀ properties : OrderedMap String String, (∀ e ∈ properties.entries, isKey e.1) →
      Listing.Yaml.read? (Listing.Yaml.mapping properties) =
        some (properties.entries.map fun e => (.ofText e.1, .ofText e.2))) ∧
    (∀ p q : OrderedMap String String, (∀ e ∈ p.entries, isKey e.1) → (∀ e ∈ q.entries, isKey e.1) →
      Listing.Yaml.mapping p = Listing.Yaml.mapping q → p = q) ∧
    ∀ read tree words project kind merges pattern leading,
      Spells words project kind (.list merges pattern leading .yaml) →
        ((run read tree words).status = 0 ↔
          (listed? read tree project kind merges pattern leading).isSome) ∧
        ∀ properties, listed? read tree project kind merges pattern leading = some properties →
          (run read tree words).output = Listing.Yaml.mapping properties ∧
            ∀ e ∈ properties.entries, isKey e.1 ∧ Line.IsValue e.2 := by
  refine ⟨Listing.Yaml.read?_mapping, fun p q => Listing.Yaml.eq_of_mapping_eq, ?_⟩
  intro read tree words project kind merges pattern leading hwords
  refine ⟨status_eq_zero_iff_listed? hwords, fun properties h => ?_⟩
  exact ⟨output_of_listed? hwords h, isKey_isValue_of_listed? h⟩

/-- Texts that would be something else without quotes, and one that is folded. -/
theorem yaml_listings_lossless_of_lookalikes :
    let long := String.join (List.replicate 20 "it's a word, ")
    let properties : OrderedMap String String := .ofList [("yes", "yes"), ("1.5", "1_000"), ("--", "12:30"),
      ("---", "~"), ("a", ""), ("b", "a: b #c"), ("c", long ++ "."), ("d", "\x41\t\u00e9𝄞\\")]
    let tree := (FileTree.emptyAt "work").place (Path.ofString "default.properties")
      (.file "a=off\nb='\u2028\n".toUTF8)
    let words := listWords "" .default [] none none .yaml
    Listing.Yaml.read? (Listing.Yaml.mapping properties) =
        some (properties.entries.map fun e => (.ofText e.1, .ofText e.2)) ∧
      (Listing.Yaml.mapping (properties.insert "yes" "yes") = Listing.Yaml.mapping properties ∧
        properties.insert "yes" "yes" = properties) ∧
      (run Pattern.reader tree words).status = 0 ∧
      ∃ shown : OrderedMap String String, shown.entries = [("a", "off"), ("b", "'\u2028")] ∧
        (run Pattern.reader tree words).output = Listing.Yaml.mapping shown := by
  intro long properties tree words
  obtain ⟨hread, hinjective, hrun⟩ := yaml_listings_lossless
  have hkeys : ∀ e ∈ properties.entries, isKey e.1 := by decide +kernel
  have hkeys' : ∀ e ∈ (properties.insert "yes" "yes").entries, isKey e.1 := by decide +kernel
  have hequal : Listing.Yaml.mapping (properties.insert "yes" "yes") =
      Listing.Yaml.mapping properties :=
    congrArg Listing.Yaml.mapping (by decide +kernel)
  have hfound : (listed? Pattern.reader tree "" .default [] none none).map (·.entries) =
      some [("a", "off"), ("b", "'\u2028")] := by decide +kernel
  obtain ⟨shown, hlisted, hentries⟩ := Option.map_eq_some_iff.1 hfound
  obtain ⟨hstatus, houtput⟩ := hrun Pattern.reader tree words "" .default [] none none
    (spells_list "" .default [] none none .yaml)
  refine ⟨hread properties hkeys, ⟨hequal, hinjective _ _ hkeys' hkeys hequal⟩, hstatus.2 ?_, shown,
    hentries, (houtput shown hlisted).1⟩
  rw [hlisted]
  rfl

end Command
end PropertyFiles
