import Mathlib.Tactic.SplitIfs
import PropertyFiles.Listing.Json
import PropertyFiles.Proofs.Text.Units
/-!
# Reading JSON listings

A reader of objects whose members are texts. It puts characters together to tokens one by one, and
tokens to members; whatever else a text may hold, it refuses. A listing holds only characters of ASCII
that can be printed and line feeds, and reads as the entries of its map in their order.
-/
namespace PropertyFiles.Listing.Json

inductive Token
  | opening
  | closing
  | colon
  | comma
  /-- The units that stand between two quotation marks. -/
  | string (units : List Nat)
deriving DecidableEq, Repr

/-- Where the next character stands, and what was read of an unfinished token. -/
inductive Place
  | between
  | inside (units : List Nat)
  | escape (units : List Nat)
  /-- In the number of a unit; `left` more digits follow the next one. -/
  | code (units : List Nat) (value left : Nat)
deriving DecidableEq, Repr

structure Scan where
  tokens : List Token
  place : Place
deriving DecidableEq, Repr

def isSpace (c : Char) : Bool :=
  c == ' ' || c == '\t' || c == '\n' || c == '\r'

def punctuation? (c : Char) : Option Token :=
  [('\x7b', Token.opening), ('\x7d', .closing), (':', .colon), (',', .comma)].lookup c

/-- The character that one behind a backslash stands for. -/
def shortEscape? (c : Char) : Option Char :=
  [('\x22', '\x22'), ('\\', '\\'), ('/', '/'), ('b', '\x08'), ('f', '\x0c'), ('n', '\n'), ('r', '\r'),
    ('t', '\t')].lookup c

namespace Scan

def step : Scan → Char → Option Scan
  | ⟨tokens, .between⟩, c =>
    if c = '\x22' then some ⟨tokens, .inside []⟩
    else if isSpace c then some ⟨tokens, .between⟩
    else (punctuation? c).map fun token => ⟨tokens ++ [token], .between⟩
  | ⟨tokens, .inside units⟩, c =>
    if c = '\x22' then some ⟨tokens ++ [.string units], .between⟩
    else if c = '\\' then some ⟨tokens, .escape units⟩
    else if c.toNat < 0x20 then none
    else some ⟨tokens, .inside (units ++ Text.units c)⟩
  | ⟨tokens, .escape units⟩, c =>
    if c = 'u' then some ⟨tokens, .code units 0 3⟩
    else (shortEscape? c).map fun meant => ⟨tokens, .inside (units ++ Text.units meant)⟩
  | ⟨tokens, .code units value left⟩, c =>
    (Text.hexValue? c).map fun digit =>
      match left with
      | 0 => ⟨tokens, .inside (units ++ [16 * value + digit])⟩
      | left + 1 => ⟨tokens, .code units (16 * value + digit) left⟩

def run (scan : Scan) (cs : List Char) : Option Scan :=
  cs.foldlM step scan

private theorem run_cons (scan : Scan) (c : Char) (rest : List Char) :
    scan.run (c :: rest) = (scan.step c).bind (·.run rest) :=
  List.foldlM_cons

private theorem run_append (scan : Scan) (cs more : List Char) :
    scan.run (cs ++ more) = (scan.run cs).bind (·.run more) :=
  List.foldlM_append

end Scan

def text? (units : List Nat) : Option String :=
  (Text.ofUnits? units).map String.ofList

def members? : List Token → Option (List (String × String))
  | [.string key, .colon, .string value, .closing] => do
    return [(← text? key, ← text? value)]
  | .string key :: .colon :: .string value :: .comma :: rest => do
    return (← text? key, ← text? value) :: (← members? rest)
  | _ => none

def object? : List Token → Option (List (String × String))
  | [.opening, .closing] => some []
  | .opening :: rest => members? rest
  | _ => none

/-- The members of an object in their order. -/
def decode? (text : String) : Option (List (String × String)) :=
  match Scan.run ⟨[], .between⟩ text.toList with
  | some ⟨tokens, .between⟩ => object? tokens
  | _ => none

example : decode? "\n\x7b \x22a\\/\x22:\x22\\ud834\\uDD1e\\u00e9\x22 ,\x22\x22:\t\x22=\x22 \x7d" =
    some [("a/", "𝄞é"), ("", "=")] := by
  decide +kernel

/-- A line feed, or a character of ASCII that can be printed. -/
def isPlain (c : Char) : Bool :=
  c == '\n' || (0x20 ≤ c.toNat && c.toNat ≤ 0x7E)

/-- Plain characters that read as tokens wherever a token may begin. -/
structure Lists (cs : List Char) (tokens : List Token) : Prop where
  plain : ∀ c ∈ cs, isPlain c
  run : ∀ before, Scan.run ⟨before, .between⟩ cs = some ⟨before ++ tokens, .between⟩

/-- Plain characters that read as units between quotation marks. -/
structure Quotes (cs : List Char) (units : List Nat) : Prop where
  plain : ∀ c ∈ cs, isPlain c
  run : ∀ tokens before, Scan.run ⟨tokens, .inside before⟩ cs =
    some ⟨tokens, .inside (before ++ units)⟩

theorem Lists.append {cs more : List Char} {tokens others : List Token} (h : Lists cs tokens)
    (h' : Lists more others) : Lists (cs ++ more) (tokens ++ others) := by
  refine ⟨List.forall_mem_append.2 ⟨h.plain, h'.plain⟩, fun before => ?_⟩
  rw [Scan.run_append, h.run, Option.bind_some, h'.run, List.append_assoc]

theorem Quotes.append {cs more : List Char} {units others : List Nat} (h : Quotes cs units)
    (h' : Quotes more others) : Quotes (cs ++ more) (units ++ others) := by
  refine ⟨List.forall_mem_append.2 ⟨h.plain, h'.plain⟩, fun tokens before => ?_⟩
  rw [Scan.run_append, h.run, Option.bind_some, h'.run, List.append_assoc]

private theorem isPlain_hexDigit (letters : Text.HexCase) {n : Nat} (h : n < 16) :
    isPlain (Text.hexDigit letters n) := by
  cases letters <;> revert n <;> decide

private theorem run_unit (tokens : List Token) (before : List Nat) (digits : List Char) :
    Scan.run ⟨tokens, .inside before⟩ ('\\' :: 'u' :: digits) =
      Scan.run ⟨tokens, .code before 0 3⟩ digits := rfl

private theorem quotes_unitEscape {n : Nat} (h : n < 0x10000) : Quotes (unitEscape n) [n] := by
  have hdigits : unitEscape n = ['\\', 'u', Text.hexDigit .lower (n / 16 / 16 / 16 % 16),
      Text.hexDigit .lower (n / 16 / 16 % 16), Text.hexDigit .lower (n / 16 % 16),
      Text.hexDigit .lower (n % 16)] := rfl
  have hlt (m : Nat) : m % 16 < 16 := Nat.mod_lt m (by decide)
  have hsum : 16 * (16 * (16 * (16 * 0 + n / 16 / 16 / 16 % 16) + n / 16 / 16 % 16) +
      n / 16 % 16) + n % 16 = n := by omega
  rw [hdigits]
  constructor
  · simp only [List.forall_mem_cons, isPlain_hexDigit .lower (hlt _), true_and]
    exact ⟨by decide, by decide, nofun⟩
  · intro tokens before
    rw [run_unit]
    simp only [Scan.run_cons, Scan.step, Text.hexValue?_hexDigit .lower (hlt _), Option.map_some,
      Option.bind_some, hsum]
    rfl

private theorem quotes_short {c meant : Char} (hplain : isPlain c) (hc : c ≠ 'u')
    (hmeant : shortEscape? c = some meant) : Quotes ['\\', c] (Text.units meant) := by
  have hescape (tokens : List Token) (before : List Nat) :
      Scan.step ⟨tokens, .inside before⟩ '\\' = some ⟨tokens, .escape before⟩ := rfl
  constructor
  · simp only [List.forall_mem_cons]
    exact ⟨by decide, hplain, nofun⟩
  · intro tokens before
    rw [Scan.run_cons, hescape, Option.bind_some, Scan.run_cons, Scan.step, if_neg hc, hmeant]
    rfl

private theorem quotes_self {c : Char} (hquote : c ≠ '\x22') (hescape : c ≠ '\\')
    (h : 0x20 ≤ c.toNat ∧ c.toNat ≤ 0x7E) : Quotes [c] (Text.units c) := by
  constructor
  · simp [isPlain, h]
  · intro tokens before
    rw [Scan.run_cons, Scan.step, if_neg hquote, if_neg hescape, if_neg (by omega)]
    rfl

/-- An escaped character reads as its units. -/
private theorem quotes_escaped (c : Char) : Quotes (escaped c) (Text.units c) := by
  have hcode := Text.toNat_not_surrogate c
  unfold escaped
  split_ifs with hquote hback hb hf hn hr ht hself hfits
  · subst hquote; exact quotes_short (by decide) (by decide) rfl
  · subst hback; exact quotes_short (by decide) (by decide) rfl
  · subst hb; exact quotes_short (by decide) (by decide) rfl
  · subst hf; exact quotes_short (by decide) (by decide) rfl
  · subst hn; exact quotes_short (by decide) (by decide) rfl
  · subst hr; exact quotes_short (by decide) (by decide) rfl
  · subst ht; exact quotes_short (by decide) (by decide) rfl
  · exact quotes_self hquote hback hself
  · rw [Text.units, if_pos hfits]
    exact quotes_unitEscape hfits
  · rw [Text.units, if_neg hfits]
    exact (quotes_unitEscape (by omega)).append (quotes_unitEscape (by omega))

private theorem quotes_flatMap_escaped (cs : List Char) :
    Quotes (cs.flatMap escaped) (cs.flatMap Text.units) := by
  induction cs with
  | nil => exact ⟨nofun, fun _ before => by simp [Scan.run]⟩
  | cons c rest ih =>
    rw [List.flatMap_cons, List.flatMap_cons]
    exact (quotes_escaped c).append ih

def textToken (text : String) : Token :=
  .string (text.toList.flatMap Text.units)

private theorem lists_string (text : String) : Lists (string text).toList [textToken text] := by
  have hquotes := quotes_flatMap_escaped text.toList
  have hopen (before : List Token) :
      Scan.step ⟨before, .between⟩ '\x22' = some ⟨before, .inside []⟩ := rfl
  rw [string, String.toList_ofList, List.cons_append]
  constructor
  · simp only [List.forall_mem_cons, List.forall_mem_append]
    exact ⟨by decide, hquotes.plain, by decide, nofun⟩
  · intro before
    rw [Scan.run_cons, hopen, Option.bind_some, Scan.run_append, hquotes.run]
    rfl

def memberTokens (e : String × String) : List Token :=
  [textToken e.1, .colon, textToken e.2]

private theorem lists_member (e : String × String) :
    Lists (member e.1 e.2).toList (memberTokens e) := by
  have hindent : Lists "  ".toList [] :=
    ⟨List.all_eq_true.1 rfl, fun before => (List.append_nil before).symm ▸ rfl⟩
  have hcolon : Lists ": ".toList [.colon] := ⟨List.all_eq_true.1 rfl, fun _ => rfl⟩
  simp only [member, String.toList_append]
  exact ((hindent.append (lists_string e.1)).append hcolon).append (lists_string e.2)

private theorem lists_members {entries : List (String × String)} (hne : entries ≠ []) :
    Lists (",\n".toList.intercalate (entries.map fun e => (member e.1 e.2).toList))
      ([Token.comma].intercalate (entries.map memberTokens)) := by
  have hcomma : Lists ",\n".toList [.comma] := ⟨List.all_eq_true.1 rfl, fun _ => rfl⟩
  induction entries with
  | nil => exact absurd rfl hne
  | cons e rest ih =>
    cases rest with
    | nil => simpa using lists_member e
    | cons next more =>
      simp only [List.map_cons, List.intercalate_cons_cons] at ih ⊢
      exact ((lists_member e).append hcomma).append (ih (by simp))

private theorem text?_units (text : String) : text? (text.toList.flatMap Text.units) = some text := by
  rw [text?, Text.ofUnits?_flatMap_units, Option.map_some, String.ofList_toList]

private theorem members?_last (e : String × String) :
    members? (memberTokens e ++ [.closing]) = some [e] := by
  simp only [memberTokens, textToken, List.cons_append, List.nil_append, members?, text?_units]
  rfl

private theorem members?_cons (e : String × String) (rest : List Token) :
    members? (memberTokens e ++ .comma :: rest) = (members? rest).map (e :: ·) := by
  simp only [memberTokens, textToken, List.cons_append, List.nil_append, members?, text?_units]
  cases members? rest <;> rfl

private theorem members?_intercalate {entries : List (String × String)} (hne : entries ≠ []) :
    members? ([Token.comma].intercalate (entries.map memberTokens) ++ [.closing]) =
      some entries := by
  induction entries with
  | nil => exact absurd rfl hne
  | cons e rest ih =>
    cases rest with
    | nil => simpa using members?_last e
    | cons next more =>
      have hmore := ih (List.cons_ne_nil next more)
      simp only [List.map_cons, List.intercalate_cons_cons, List.append_assoc,
        List.cons_append, List.nil_append] at hmore ⊢
      rw [members?_cons, hmore, Option.map_some]

private theorem object?_opening {rest : List Token} {entries : List (String × String)}
    (h : members? rest = some entries) : object? (.opening :: rest) = some entries := by
  -- An object without members is no list of members.
  have hne : rest ≠ [.closing] := by
    rintro rfl
    cases h
  rw [object?]
  · exact h
  · simpa using hne

/-- The listing of a map is plain and reads as its entries. -/
theorem decode?_object (properties : OrderedMap String String) :
    (∀ c ∈ (object properties ++ "\n").toList, isPlain c) ∧
      decode? (object properties ++ "\n") = some properties.entries := by
  have hend : Lists "\n".toList [] :=
    ⟨List.all_eq_true.1 rfl, fun before => (List.append_nil before).symm ▸ rfl⟩
  unfold object
  cases hentries : properties.entries with
  | nil => exact ⟨List.all_eq_true.1 rfl, by rfl⟩
  | cons e rest =>
    have hne := List.cons_ne_nil e rest
    have hopen : Lists "\x7b\n".toList [.opening] := ⟨List.all_eq_true.1 rfl, fun _ => rfl⟩
    have hclose : Lists "\n\x7d".toList [.closing] := ⟨List.all_eq_true.1 rfl, fun _ => rfl⟩
    have hlists := hopen.append ((lists_members hne).append (hclose.append hend))
    have htext : ("\x7b\n" ++ ",\n".intercalate ((e :: rest).map fun e => member e.1 e.2) ++
        "\n\x7d" ++ "\n").toList = "\x7b\n".toList ++
          (",\n".toList.intercalate ((e :: rest).map fun e => (member e.1 e.2).toList) ++
            ("\n\x7d".toList ++ "\n".toList)) := by
      simp only [String.toList_append, String.toList_intercalate, List.map_map, List.append_assoc]
      rfl
    rw [← htext] at hlists
    refine ⟨hlists.plain, ?_⟩
    have hrun := hlists.run []
    simp only [List.map_cons] at hrun ⊢
    simp only [decode?, hrun]
    exact object?_opening (members?_intercalate hne)

end PropertyFiles.Listing.Json
