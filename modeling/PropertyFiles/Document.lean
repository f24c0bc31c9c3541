import PropertyFiles.Kind
import PropertyFiles.Line
import PropertyFiles.OrderedMap.Basic
import PropertyFiles.Text.Raw
/-!
# Property documents

The text of a property file. Reading takes the definitions of all lines, the last one of a key
winning, and refuses the whole text if one line is malformed. Writing puts the header of the kind
first, then one line for each property, below its comment if the key is well known. Line after line is
encoded and written, so a value that cannot be encoded ends the text in front of its line.
-/
namespace PropertyFiles

open Text

/-- A line that is neither blank, a comment nor a definition, and its number from one. -/
structure Malformed where
  number : Nat
  text : String
deriving DecidableEq, Repr

/-- Properties in order. A property can be present without a value. -/
abbrev Properties := OrderedMap String (Option RawText)

abbrev OrderedMap.raw (m : OrderedMap String String) : OrderedMap String RawText :=
  m.mapValues RawText.ofString

/-- The values as texts, if all of them are. -/
def OrderedMap.texts? (m : OrderedMap String RawText) : Option (OrderedMap String String) :=
  if m.entries.all (·.2.text?.isSome) then some (m.mapValues fun value => value.text?.getD "")
  else none

namespace Document

def definitions (number : Nat) : List (List Char) → Except Malformed (List (String × String))
  | [] => .ok []
  | line :: more =>
    match Line.ofChars line with
    | .ignored => definitions (number + 1) more
    | .malformed _ => .error ⟨number, String.ofList line⟩
    | .property key value =>
      match definitions (number + 1) more with
      | .ok rest => .ok ((key, value) :: rest)
      | .error malformed => .error malformed

/-- The properties of a text: keys in the order of their first definition, each with the value of
its last. -/
def read (text : String) : Except Malformed (OrderedMap String String) :=
  match definitions 1 (lines text.toList) with
  | .ok entries => .ok (OrderedMap.ofList entries)
  | .error malformed => .error malformed

def undefinedText : String := "None"

/-- What is written for a value, if that can be encoded. -/
def written? : Option RawText → Option String
  | none => some undefinedText
  | some value => value.text?

def entryLine (key value : String) : String :=
  key ++ "=" ++ value ++ "\n"

def commentText (key : String) : String :=
  (WellKnown.comment? key).getD ""

/-- What is written for entries one after another: the comment of each and its line, up to the line of
the first value that cannot be encoded. -/
def entriesText : List (String × Option RawText) → String
  | [] => ""
  | (key, value) :: rest =>
    match written? value with
    | some text => commentText key ++ entryLine key text ++ entriesText rest
    | none => commentText key

def render (kind : Kind) (properties : Properties) : String :=
  kind.header ++ entriesText properties.entries

def rawLine (key : String) (value : RawText) : RawText :=
  ⟨(RawText.ofString (key ++ "=")).points ++ value.points⟩

def unencodableLine? (key : String) (value : Option RawText) : Option RawText :=
  if (written? value).isSome then none else value.map (rawLine key)

def unencodable? (properties : Properties) : Option RawText :=
  properties.entries.findSome? fun e => unencodableLine? e.1 e.2

/-- Why an entry cannot be written as a line that reads back unchanged. -/
inductive Fault
  | invalidKey
  | lineBreak
  | leadingBlank
deriving DecidableEq, Repr

def entryFault? (key : String) (value : Option RawText) : Option Fault :=
  if !isKey key then some .invalidKey
  else
    match value with
    | none => none
    | some value =>
      if value.points.any CodePoint.isBreak then some .lineBreak
      else if value.points.head?.any CodePoint.isBlank then some .leadingBlank
      else none

/-- The first entry that cannot be written, and why. -/
def fault? (properties : Properties) : Option (String × Fault) :=
  properties.entries.findSome? fun e => (entryFault? e.1 e.2).map (e.1, ·)

end Document
end PropertyFiles
