import Mathlib.Computability.RegularExpressions
import Mathlib.Data.List.TakeWhile
import PropertyFiles.Listing.Yaml.Implicit
import PropertyFiles.Text.Blank
/-!
# The forms of implicit types

YAML gives the texts of each implicit type by a regular expression. Here these forms are written down as
the format has them, with laws for what can be said about the first characters of a text that has a form.
-/
namespace PropertyFiles.Listing.Yaml.Implicit

open RegularExpression

abbrev Form := RegularExpression Char

namespace Form

def between (first last : Char) : List Char :=
  (List.range' first.toNat (last.toNat + 1 - first.toNat)).map Char.ofNat

def anyOf (forms : List Form) : Form :=
  forms.foldr (· + ·) 0

def oneOf (cs : List Char) : Form :=
  anyOf (cs.map char)

def word (text : String) : Form :=
  (text.toList.map char).foldr (· * ·) 1

def maybe (form : Form) : Form :=
  1 + form

/-- The form once or more often. -/
def many (form : Form) : Form :=
  form * form.star

def digit : Form :=
  oneOf (between '0' '9')

/-- From `least` to `most` digits. -/
def digits : Nat → Nat → Form
  | 0, 0 => 1
  | 0, most + 1 => maybe (digit * digits 0 most)
  | _ + 1, 0 => 0
  | least + 1, most + 1 => digit * digits least most

def sign : Form :=
  maybe (oneOf ['-', '+'])

def grouped : Form :=
  (oneOf ('_' :: between '0' '9')).star

def numeral : Form :=
  digit * grouped

/-- A numeral that does not begin with zero. -/
def positive : Form :=
  oneOf (between '1' '9') * grouped

/-- Places counted in sixties. -/
def places : Form :=
  many (char ':' * (maybe (oneOf (between '0' '5')) * digit))

def boolean : Form :=
  anyOf ([
    "yes", "Yes", "YES", "no", "No", "NO", "true", "True", "TRUE", "false", "False", "FALSE",
    "on", "On", "ON", "off", "Off", "OFF"].map word)

def null : Form :=
  anyOf (["", "~", "null", "Null", "NULL"].map word)

def exponent : Form :=
  oneOf ['e', 'E'] * (oneOf ['-', '+'] * many digit)

def unsignedInteger : Form :=
  anyOf [
    char '0' * (char 'b' * many (oneOf ['0', '1', '_'])),
    char '0' * many (oneOf ('_' :: between '0' '7')),
    char '0' + positive,
    char '0' * (char 'x' *
      many (oneOf ('_' :: between '0' '9' ++ between 'a' 'f' ++ between 'A' 'F'))),
    positive * places]

def integer : Form :=
  sign * unsignedInteger

def real : Form :=
  anyOf [
    sign * numeral * (char '.' * (grouped * maybe exponent)),
    char '.' * (numeral * maybe exponent),
    sign * (numeral * places) * (char '.' * grouped),
    sign * anyOf ([".inf", ".Inf", ".INF"].map word),
    anyOf ([".nan", ".NaN", ".NAN"].map word)]

def gap : Form :=
  oneOf [' ', '\t']

def zone : Form :=
  word "Z" + oneOf ['-', '+'] * (digits 1 2 * maybe (char ':' * digits 2 2))

def afterSeconds : Form :=
  maybe (char '.' * digit.star) * maybe (gap.star * zone)

def timeOfDay : Form :=
  digits 1 2 * (char ':' * (digits 2 2 * (char ':' * (digits 2 2 * afterSeconds))))

def moment : Form :=
  digits 4 4 * (char '-' * (digits 2 2 * (char '-' * digits 2 2))) +
    digits 4 4 * (char '-' * (digits 1 2 * (char '-' * (digits 1 2 *
      ((oneOf ['T', 't'] + many gap) * timeOfDay)))))

end Form

/-- The forms of the types, each for the whole of a text. -/
def forms : List (Tag × Form) := [
  (.boolean, .boolean),
  (.null, .null),
  (.integer, .integer),
  (.real, .real),
  (.moment, .moment),
  (.value, .word "="),
  (.merge, .word "<<")]

/-- The first type whose form a text has; one that has no form is just text. -/
def firstOf (forms : List (Tag × Form)) (cs : List Char) : Tag :=
  ((forms.find? fun form => form.2.rmatch cs).map Prod.fst).getD .text

/-- The type of a text without quotes. -/
def resolve (cs : List Char) : Tag :=
  firstOf forms cs

namespace Form

/-- Whether a text as a whole has a form. -/
def Fits (form : Form) (cs : List Char) : Prop :=
  form.rmatch cs

private theorem toNat_ofNat_of_lt {n : Nat} (h : n < 128) : (Char.ofNat n).toNat = n := by
  revert n
  decide

theorem mem_between {first last c : Char} (h : last.toNat < 128) :
    c ∈ between first last ↔ first ≤ c ∧ c ≤ last := by
  simp only [between, List.mem_map, List.mem_range'_1, Char.le_def, UInt32.le_iff_toNat_le]
  constructor
  · rintro ⟨n, hn, rfl⟩
    have hn' : (Char.ofNat n).val.toNat = n := toNat_ofNat_of_lt (by omega)
    rw [hn']
    exact ⟨hn.1, Nat.le_of_lt_succ (by change n < last.toNat + 1; omega)⟩
  · intro hc
    refine ⟨c.toNat, ⟨hc.1, ?_⟩, Char.ofNat_toNat c⟩
    have hlast : c.toNat ≤ last.toNat := hc.2
    omega

section Laws
variable {form more : Form} {chars cs rest : List Char} {a c : Char}

theorem fits_one : Fits 1 cs ↔ cs = [] :=
  one_rmatch_iff cs

theorem fits_add : Fits (form + more) cs ↔ Fits form cs ∨ Fits more cs :=
  add_rmatch_iff form more cs

theorem fits_mul :
    Fits (form * more) cs ↔ ∃ front rest, cs = front ++ rest ∧ Fits form front ∧ Fits more rest :=
  mul_rmatch_iff form more cs

private theorem fits_star : Fits form.star cs ↔
    ∃ words : List (List Char), cs = words.flatten ∧ ∀ word ∈ words, word ≠ [] ∧ Fits form word :=
  star_rmatch_iff form cs

theorem fits_char : Fits (char a) cs ↔ cs = [a] :=
  char_rmatch_iff a cs

theorem fits_anyOf {forms : List Form} : Fits (anyOf forms) cs ↔ ∃ form ∈ forms, Fits form cs := by
  induction forms with
  | nil => simp [anyOf, Fits, zero_rmatch]
  | cons form forms ih =>
    rw [anyOf, List.foldr_cons, fits_add, ← anyOf, ih]
    simp

private theorem fits_oneOf : Fits (oneOf chars) cs ↔ ∃ c ∈ chars, cs = [c] := by
  simp only [oneOf, fits_anyOf, List.mem_map, exists_exists_and_eq_and, fits_char]

theorem fits_maybe : Fits (maybe form) cs ↔ cs = [] ∨ Fits form cs := by
  rw [maybe, fits_add, fits_one]

theorem fits_mul_assoc {last : Form} :
    Fits (form * more * last) cs ↔ Fits (form * (more * last)) cs := by
  simp only [fits_mul]
  constructor
  · rintro ⟨_, third, rfl, ⟨first, second, rfl, h, hmore⟩, hlast⟩
    exact ⟨first, second ++ third, List.append_assoc .., h, second, third, rfl, hmore, hlast⟩
  · rintro ⟨first, _, rfl, h, second, third, rfl, hmore, hlast⟩
    exact ⟨first ++ second, third, (List.append_assoc ..).symm, ⟨first, second, rfl, h, hmore⟩, hlast⟩

theorem fits_add_mul {last : Form} :
    Fits ((form + more) * last) cs ↔ Fits (form * last) cs ∨ Fits (more * last) cs := by
  simp only [fits_mul, fits_add, or_and_right, and_or_left, exists_or]

theorem fits_maybe_mul :
    Fits (maybe form * more) cs ↔ Fits more cs ∨ Fits (form * more) cs := by
  simp only [fits_mul, fits_maybe]
  constructor
  · rintro ⟨_, rest, rfl, rfl | hform, hmore⟩
    · exact Or.inl hmore
    · exact Or.inr ⟨_, rest, rfl, hform, hmore⟩
  · rintro (hmore | ⟨front, rest, rfl, hform, hmore⟩)
    · exact ⟨[], cs, rfl, Or.inl rfl, hmore⟩
    · exact ⟨front, rest, rfl, Or.inr hform, hmore⟩

private theorem not_fits_mul_nil (h : ¬ Fits form []) : ¬ Fits (form * more) [] := by
  rw [fits_mul]
  rintro ⟨_, _, hsplit, hform, _⟩
  rw [(List.append_eq_nil_iff.1 hsplit.symm).1] at hform
  exact h hform

/-- A form of one character in front of another takes the first character. -/
theorem fits_mul_cons (h : ∀ cs, Fits form cs ↔ ∃ c ∈ chars, cs = [c]) :
    Fits (form * more) (c :: rest) ↔ c ∈ chars ∧ Fits more rest := by
  simp only [fits_mul, h]
  constructor
  · rintro ⟨_, _, hsplit, ⟨d, hd, rfl⟩, hmore⟩
    rw [List.singleton_append, List.cons.injEq] at hsplit
    rw [hsplit.1, hsplit.2]
    exact ⟨hd, hmore⟩
  · rintro ⟨hc, hrest⟩
    exact ⟨[c], rest, rfl, ⟨c, hc, rfl⟩, hrest⟩

@[simp] theorem fits_oneOf_cons : Fits (oneOf chars) (c :: rest) ↔ c ∈ chars ∧ rest = [] := by
  rw [fits_oneOf]
  simp only [List.cons.injEq]
  exact ⟨fun ⟨_, hd, hcd, hrest⟩ => ⟨hcd ▸ hd, hrest⟩, fun ⟨hc, hrest⟩ => ⟨c, hc, rfl, hrest⟩⟩

@[simp] theorem not_fits_oneOf_nil : ¬ Fits (oneOf chars) [] := by
  rw [fits_oneOf]
  rintro ⟨c, _, hc⟩
  cases hc

@[simp] theorem fits_oneOf_mul_cons :
    Fits (oneOf chars * form) (c :: rest) ↔ c ∈ chars ∧ Fits form rest :=
  fits_mul_cons fun _ => fits_oneOf

@[simp] theorem not_fits_oneOf_mul_nil : ¬ Fits (oneOf chars * form) [] :=
  not_fits_mul_nil not_fits_oneOf_nil

@[simp] theorem fits_char_mul_cons : Fits (char a * form) (c :: rest) ↔ c = a ∧ Fits form rest := by
  have hone (cs : List Char) : Fits (char a) cs ↔ ∃ c ∈ [a], cs = [c] := by
    simp only [fits_char, List.mem_singleton, exists_eq_left]
  rw [fits_mul_cons hone, List.mem_singleton]

@[simp] theorem not_fits_char_mul_nil : ¬ Fits (char a * form) [] :=
  not_fits_mul_nil (by rw [fits_char]; nofun)

theorem fits_word {text : String} : Fits (word text) cs ↔ cs = text.toList := by
  rw [word]
  induction text.toList generalizing cs with
  | nil => exact fits_one
  | cons c text ih =>
    cases cs with
    | nil => simp
    | cons d rest => simp [ih]

theorem fits_star_oneOf : Fits (oneOf chars).star cs ↔ ∀ c ∈ cs, c ∈ chars := by
  simp only [fits_star, fits_oneOf]
  constructor
  · rintro ⟨words, rfl, hwords⟩ c hc
    obtain ⟨word, hword, hmem⟩ := List.mem_flatten.1 hc
    obtain ⟨_, d, hd, rfl⟩ := hwords word hword
    rwa [List.mem_singleton.1 hmem]
  · intro hcs
    refine ⟨cs.map ([·]), ?_, ?_⟩
    · rw [← List.flatMap_def, List.flatMap_singleton']
    · intro word hword
      obtain ⟨c, hc, rfl⟩ := List.mem_map.1 hword
      exact ⟨List.cons_ne_nil c [], c, hcs c hc, rfl⟩

theorem fits_many_oneOf : Fits (many (oneOf chars)) cs ↔ cs ≠ [] ∧ ∀ c ∈ cs, c ∈ chars := by
  cases cs with
  | nil => simp [many]
  | cons c rest => simp [many, fits_star_oneOf]

/-- Some characters in front of a form that begins with none of them are a longest run. -/
theorem fits_star_oneOf_mul {p : Char → Bool} (hp : ∀ c, p c ↔ c ∈ chars)
    (hstop : ∀ c rest, Fits form (c :: rest) → c ∉ chars) :
    Fits ((oneOf chars).star * form) cs ↔ Fits form (cs.dropWhile p) := by
  simp only [fits_mul, fits_star_oneOf]
  constructor
  · rintro ⟨front, rest, rfl, hfront, hform⟩
    have hback : ∀ c ∈ rest.head?, p c = false := by
      cases rest with
      | nil => nofun
      | cons c rest => simpa [← hp] using hstop c rest hform
    rwa [(Text.takeWhile_dropWhile_of_stop (fun c hc => (hp c).2 (hfront c hc)) hback).2]
  · intro hform
    refine ⟨cs.takeWhile p, cs.dropWhile p, List.takeWhile_append_dropWhile.symm, ?_, hform⟩
    exact fun c hc => (hp c).1 (List.mem_takeWhile_imp hc)

theorem fits_many (h : ¬ Fits form []) :
    Fits (many form) cs ↔ ∃ words ≠ [], cs = words.flatten ∧ ∀ word ∈ words, Fits form word := by
  simp only [many, fits_mul, fits_star]
  constructor
  · rintro ⟨first, _, rfl, hfirst, words, rfl, hwords⟩
    refine ⟨first :: words, List.cons_ne_nil first words, rfl, ?_⟩
    exact List.forall_mem_cons.2 ⟨hfirst, fun word hword => (hwords word hword).2⟩
  · rintro ⟨words, hne, rfl, hwords⟩
    cases words with
    | nil => exact absurd rfl hne
    | cons first words =>
      obtain ⟨hfirst, hrest⟩ := List.forall_mem_cons.1 hwords
      refine ⟨first, words.flatten, rfl, hfirst, words, rfl, fun word hword => ⟨?_, hrest word hword⟩⟩
      rintro rfl
      exact h (hrest [] hword)

end Laws
end Form

end PropertyFiles.Listing.Yaml.Implicit
