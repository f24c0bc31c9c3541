import PropertyFiles.Text.Blank
import PropertyFiles.Text.Hex
import PropertyFiles.Text.Lines
/-!
# Raw texts

A text in memory is a sequence of code points, and not all of these need be characters: a byte of the
command line that is no text comes as a lone surrogate. Such a text can be stored, looked up and shown,
but no encoding can write it to a file.
-/
namespace PropertyFiles

/-- Half of a surrogate pair, standing alone. -/
structure Surrogate where
  code : Nat
  isSurrogate : 0xD800 ≤ code ∧ code ≤ 0xDFFF
deriving DecidableEq, Repr

inductive CodePoint
  | char (c : Char)
  | surrogate (half : Surrogate)
deriving DecidableEq, Repr

namespace CodePoint

def isBreak : CodePoint → Bool
  | char c => Text.isBreak c
  | surrogate _ => false

def isBlank : CodePoint → Bool
  | char c => Text.isBlank c
  | surrogate _ => false

def isSurrogate : CodePoint → Bool
  | char _ => false
  | surrogate _ => true

/-- A character as it is, a surrogate as an escape. -/
def shown : CodePoint → List Char
  | char c => [c]
  | surrogate half => '\\' :: 'u' :: Text.hexDigits .lower 4 half.code

/-- The characters of a sequence that holds no surrogate. -/
def chars? : List CodePoint → Option (List Char)
  | [] => some []
  | char c :: rest => (chars? rest).map (c :: ·)
  | surrogate _ :: _ => none

theorem chars?_eq_some_iff {points : List CodePoint} {cs : List Char} :
    chars? points = some cs ↔ points = cs.map char := by
  induction points generalizing cs with
  | nil => cases cs <;> simp [chars?]
  | cons point rest ih =>
    cases point with
    | surrogate half => cases cs <;> simp [chars?]
    | char c =>
      cases cs with
      | nil => simp [chars?]
      | cons d ds =>
        simp only [chars?, Option.map_eq_some_iff, ih, List.map_cons, List.cons.injEq, char.injEq]
        constructor
        · rintro ⟨_, rfl, rfl, rfl⟩
          exact ⟨rfl, rfl⟩
        · rintro ⟨rfl, rfl⟩
          exact ⟨ds, rfl, rfl, rfl⟩

@[simp] theorem chars?_map_char (cs : List Char) : chars? (cs.map char) = some cs :=
  chars?_eq_some_iff.2 rfl

end CodePoint

structure RawText where
  points : List CodePoint
deriving DecidableEq, Repr

namespace RawText

@[coe] def ofString (text : String) : RawText :=
  ⟨text.toList.map .char⟩

instance : Coe String RawText := ⟨ofString⟩

/-- The text that can be encoded, if all code points are characters. -/
def text? (raw : RawText) : Option String :=
  (CodePoint.chars? raw.points).map String.ofList

def shown (raw : RawText) : String :=
  String.ofList (raw.points.flatMap CodePoint.shown)

/-- What is said of a text that cannot be encoded: where its first surrogates stand. -/
def encodingFault (raw : RawText) : String :=
  let start := (raw.points.takeWhile (!·.isSurrogate)).length
  let halves := (raw.points.drop start).takeWhile (·.isSurrogate)
  let place := match halves with
    | [half] => s!"character '{String.ofList half.shown}' in position {start}"
    | _ => s!"characters in position {start}-{start + halves.length - 1}"
  s!"'utf-8' codec can't encode {place}: surrogates not allowed"

theorem text?_eq_some_iff {raw : RawText} {text : String} :
    raw.text? = some text ↔ raw = text := by
  simp only [text?, Option.map_eq_some_iff, CodePoint.chars?_eq_some_iff, ofString]
  constructor
  · rintro ⟨cs, hpoints, rfl⟩
    rw [String.toList_ofList, ← hpoints]
  · rintro rfl
    exact ⟨text.toList, rfl, String.ofList_toList⟩

@[simp] theorem text?_ofString (text : String) : (ofString text).text? = some text :=
  text?_eq_some_iff.2 rfl

@[simp] theorem shown_ofString (text : String) : (ofString text).shown = text := by
  have hshown : (text.toList.map CodePoint.char).flatMap CodePoint.shown = text.toList := by
    induction text.toList with
    | nil => rfl
    | cons c rest ih => rw [List.map_cons, List.flatMap_cons, ih]; rfl
  rw [shown, ofString, hshown, String.ofList_toList]

end RawText
end PropertyFiles
