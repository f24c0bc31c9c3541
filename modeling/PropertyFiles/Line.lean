import PropertyFiles.Key
import PropertyFiles.Text.Blank
import PropertyFiles.Text.Lines
/-!
# Lines of a property file

A line is blank or a comment, or it defines a property: a key, an equals sign and a value, with
blanks allowed before each of them. A value runs to the end of the line.
-/
namespace PropertyFiles

open Text

inductive Line
  | ignored
  | property (key value : String)
  /-- Neither; the text is the line without its break and the blanks in front. -/
  | malformed (text : String)
deriving DecidableEq, Repr

namespace Line

/-- The part of a line that counts: what is left without breaks at the end and blanks in front. -/
def content (cs : List Char) : List Char :=
  trimStart (dropTrailing isBreak cs)

/-- The key and the value of a definition. The key is the longest run of key characters; a value
holds no line feed. -/
def definition? (cs : List Char) : Option (List Char × List Char) :=
  match trimStart (cs.dropWhile isKeyChar) with
  | '=' :: rest =>
    if cs.takeWhile isKeyChar = [] ∨ '\n' ∈ trimStart rest then none
    else some (cs.takeWhile isKeyChar, trimStart rest)
  | _ => none

def ofContent (cs : List Char) : Line :=
  match cs with
  | [] => .ignored
  | '#' :: _ => .ignored
  | _ =>
    match definition? cs with
    | some (key, value) => .property (String.ofList key) (String.ofList value)
    | none => .malformed (String.ofList cs)

def ofChars (cs : List Char) : Line :=
  ofContent (content cs)

def read (text : String) : Line :=
  ofChars text.toList

/-- A key, an equals sign and a value without blanks in front define a property. -/
theorem definition?_key_value {key value : List Char} (hne : key ≠ [])
    (hkey : ∀ c ∈ key, isKeyChar c) (htrim : trimStart value = value) (hfeed : '\n' ∉ value) :
    definition? (key ++ '=' :: value) = some (key, value) := by
  have hstop : isKeyChar '=' = false := by decide
  have htake : (key ++ '=' :: value).takeWhile isKeyChar = key := by
    rw [List.takeWhile_append_of_pos hkey, List.takeWhile_cons_of_neg (by simp [hstop]),
      List.append_nil]
  have hdrop : (key ++ '=' :: value).dropWhile isKeyChar = '=' :: value := by
    rw [List.dropWhile_append_of_pos hkey, List.dropWhile_cons_of_neg (by simp [hstop])]
  have hblank : trimStart ('=' :: value) = '=' :: value :=
    List.dropWhile_cons_of_neg (by decide)
  unfold definition?
  rw [hdrop, hblank, htake]
  simp only [htrim, hne, hfeed, or_self, if_false]

end Line
end PropertyFiles
