import PropertyFiles.Pattern.Basic
import PropertyFiles.Text.Hex
/-!
# Written patterns

The notation of patterns: characters stand for themselves, `.` for any character of a line, square
brackets for sets, `^` and `$` for the ends of a text, `|` for a choice, parentheses for groups, and
`*`, `+`, `?` and counts in braces for repetitions. A pattern is cut into tokens first; the tokens
are then put together on a stack of open groups. The notation is a part of what other readers of patterns
know: flags, references to groups, conditions on the text around a match and repetitions that give nothing
back are taken for faults here.
-/
namespace PropertyFiles.Pattern

inductive Token
  | atom (atom : Atom)
  | times (least : Nat) (most : Option Nat)
  | bar
  | opening
  | closing
deriving DecidableEq, Repr

inductive Escape
  | literal (c : Char)
  | set (set : CharSet)
deriving DecidableEq, Repr

def charOf? (n : Nat) : Option Char :=
  if n.isValidChar then some (Char.ofNat n) else none

def hexEscape? (count : Nat) (cs : List Char) : Option (Escape × List Char) := do
  let digits ← (cs.take count).mapM Text.hexValue?
  if digits.length = count then
    let c ← charOf? (digits.foldl (fun n d => 16 * n + d) 0)
    return (.literal c, cs.drop count)
  else none

def isOctal (c : Char) : Bool :=
  '0' ≤ c && c ≤ '7'

def octalEscape? (cs : List Char) : Option (Escape × List Char) :=
  let digits := (cs.take 3).takeWhile isOctal
  let n := digits.foldl (fun n d => 8 * n + (d.toNat - 48)) 0
  if n < 256 then some (.literal (Char.ofNat n), cs.drop digits.length) else none

def commonEscape? : List Char → Option (Escape × List Char)
  | [] => none
  | 'd' :: rest => some (.set .decimal, rest)
  | 'D' :: rest => some (.set (.complement .decimal), rest)
  | 's' :: rest => some (.set .blank, rest)
  | 'S' :: rest => some (.set (.complement .blank), rest)
  | 'w' :: rest => some (.set .word, rest)
  | 'W' :: rest => some (.set (.complement .word), rest)
  | 'a' :: rest => some (.literal '\x07', rest)
  | 'f' :: rest => some (.literal '\x0c', rest)
  | 'n' :: rest => some (.literal '\n', rest)
  | 'r' :: rest => some (.literal '\r', rest)
  | 't' :: rest => some (.literal '\t', rest)
  | 'v' :: rest => some (.literal '\x0b', rest)
  | 'x' :: rest => hexEscape? 2 rest
  | 'u' :: rest => hexEscape? 4 rest
  | 'U' :: rest => hexEscape? 8 rest
  | c :: rest => if c.isAlphanum then none else some (.literal c, rest)

def bracketEscape? : List Char → Option (Escape × List Char)
  | 'b' :: rest => some (.literal '\x08', rest)
  | c :: rest => if isOctal c then octalEscape? (c :: rest) else commonEscape? (c :: rest)
  | [] => none

/-- An escape sequence outside brackets, after the backslash. A number that begins with zero or has
three octal digits names a character. -/
def escape? : List Char → Option (Token × List Char)
  | 'A' :: rest => some (.atom (.spot .start), rest)
  | 'Z' :: rest => some (.atom (.spot .finish), rest)
  | 'b' :: rest => some (.atom (.spot .wordBoundary), rest)
  | 'B' :: rest => some (.atom (.spot .noWordBoundary), rest)
  | cs =>
    let escape :=
      if cs.head? = some '0' || ((cs.take 3).length == 3 && (cs.take 3).all isOctal) then
        octalEscape? cs
      else commonEscape? cs
    match escape with
    | some (.literal c, rest) => some (.atom (.one (.single c)), rest)
    | some (.set set, rest) => some (.atom (.one set), rest)
    | none => none

def member? : List Char → Option (Escape × List Char)
  | [] => none
  | '\\' :: rest => bracketEscape? rest
  | c :: rest => some (.literal c, rest)

def Escape.toSet : Escape → CharSet
  | .literal c => .single c
  | .set members => members

def joinSet (sofar : Option CharSet) (part : CharSet) : CharSet :=
  match sofar with
  | none => part
  | some set => .union set part

/-- The members of a bracketed set up to the closing bracket, and what follows it. A closing bracket
in the first place is a member, and so is a hyphen in the last. -/
def members? : Nat → Option CharSet → List Char → Option (CharSet × List Char)
  | 0, _, _ => none
  | fuel + 1, sofar, cs =>
    match sofar, cs with
    | some set, ']' :: rest => some (set, rest)
    | sofar, cs =>
      match member? cs with
      | none => none
      | some (first, '-' :: ']' :: rest) =>
        some (.union (joinSet sofar first.toSet) (.single '-'), rest)
      | some (first, '-' :: rest) =>
        match first, member? rest with
        | .literal low, some (.literal high, rest) =>
          if low ≤ high then members? fuel (some (joinSet sofar (.range low high))) rest else none
        | _, _ => none
      | some (first, rest) => members? fuel (some (joinSet sofar first.toSet)) rest

def bracket? (cs : List Char) : Option (CharSet × List Char) :=
  match cs with
  | '^' :: rest => (members? cs.length none rest).map fun (set, rest) => (.complement set, rest)
  | _ => members? (cs.length + 1) none cs

def count? (digits : List Char) : Option Nat :=
  if digits = [] then none else some (digits.foldl (fun n d => 10 * n + (d.toNat - 48)) 0)

/-- The counts in braces after the opening brace, and what follows. Braces that hold anything else
are no counts. -/
def counts? (cs : List Char) : Option ((Nat × Option Nat) × List Char) :=
  let low := count? (cs.takeWhile Char.isDigit)
  match cs.dropWhile Char.isDigit with
  | '\x7d' :: rest => low.map fun n => ((n, some n), rest)
  | ',' :: rest =>
    match rest.dropWhile Char.isDigit with
    | '\x7d' :: after => some ((low.getD 0, count? (rest.takeWhile Char.isDigit)), after)
    | _ => none
  | _ => none

/-- A repetition, with the question mark that may follow it. That asks for short matches, which makes no
difference to whether there is one. -/
def repetitionToken (least : Nat) (most : Option Nat) : List Char → Token × List Char
  | '?' :: rest => (.times least most, rest)
  | rest => (.times least most, rest)

def token? : List Char → Option (Token × List Char)
  | [] => none
  | '\\' :: rest => escape? rest
  | '.' :: rest => some (.atom (.one .notLineFeed), rest)
  | '^' :: rest => some (.atom (.spot .start), rest)
  | '$' :: rest => some (.atom (.spot .lastLineEnd), rest)
  | '|' :: rest => some (.bar, rest)
  | ')' :: rest => some (.closing, rest)
  | '(' :: '?' :: ':' :: rest => some (.opening, rest)
  | '(' :: '?' :: _ => none
  | '(' :: rest => some (.opening, rest)
  | '[' :: rest => (bracket? rest).map fun (set, rest) => (.atom (.one set), rest)
  | '*' :: rest => some (repetitionToken 0 none rest)
  | '+' :: rest => some (repetitionToken 1 none rest)
  | '?' :: rest => some (repetitionToken 0 (some 1) rest)
  | '\x7b' :: rest =>
    match counts? rest with
    | some ((least, most), rest) => some (repetitionToken least most rest)
    | none => some (.atom (.one (.single '\x7b')), rest)
  | c :: rest => some (.atom (.one (.single c)), rest)

/-- All tokens of a written pattern. Every token takes a character at least, so `fuel` need not
exceed the number of characters. -/
def tokens? : Nat → List Char → Option (List Token)
  | _, [] => some []
  | 0, _ :: _ => none
  | fuel + 1, cs => do
    let (token, rest) ← token? cs
    return token :: (← tokens? fuel rest)

inductive Standing
  | repeatable
  | position
  | repeated
deriving DecidableEq, Repr

def standingOf : Atom → Standing
  | .one _ => .repeatable
  | .spot _ => .position

/-- A group that is being read: the choices that are complete, and the parts of the current one,
last part first. -/
structure Group where
  choices : Option (Pattern Atom) := none
  parts : List (Pattern Atom × Standing) := []

namespace Group

def current (group : Group) : Pattern Atom :=
  match group.parts with
  | [] => .empty
  | last :: before => before.foldl (fun after part => .sequence part.1 after) last.1

def close (group : Group) : Pattern Atom :=
  match group.choices with
  | none => group.current
  | some choices => .choice choices group.current

def add (group : Group) (part : Pattern Atom) (standing : Standing) : Group :=
  { group with parts := (part, standing) :: group.parts }

/-- A group with its last part repeated. Nothing, a position and a repetition cannot be. -/
def repeatLast? (group : Group) (least : Nat) (most : Option Nat) : Option Group :=
  match group.parts with
  | (part, .repeatable) :: before =>
    if most.any (· < least) then none
    else
      let repeated := Pattern.repetition part least (most.map (· - least))
      some { group with parts := (repeated, .repeated) :: before }
  | _ => none

end Group

/-- No repetition counts as far as this. -/
def countLimit : Nat := 4294967295

def isTooLarge (least : Nat) (most : Option Nat) : Bool :=
  countLimit ≤ least || most.any (countLimit ≤ ·)

/-- The open groups after one more token, the innermost first. -/
def step (groups : List Group) (token : Token) : Except PatternFault (List Group) :=
  match groups, token with
  | group :: outer, .atom a => .ok (group.add (.atom a) (standingOf a) :: outer)
  | group :: outer, .times least most =>
    if isTooLarge least most then .error .tooLarge
    else
      match group.repeatLast? least most with
      | some repeated => .ok (repeated :: outer)
      | none => .error .invalid
  | group :: outer, .bar => .ok (⟨some group.close, []⟩ :: outer)
  | groups, .opening => .ok (⟨none, []⟩ :: groups)
  | group :: next :: outer, .closing => .ok (next.add group.close .repeatable :: outer)
  | _, _ => .error .invalid

def parse (text : String) : Except PatternFault (Pattern Atom) := do
  let cs := text.toList
  match tokens? cs.length cs with
  | none => throw .invalid
  | some tokens =>
    match ← tokens.foldlM step [⟨none, []⟩] with
    | [group] => return group.close
    | _ => throw .invalid

end PropertyFiles.Pattern
