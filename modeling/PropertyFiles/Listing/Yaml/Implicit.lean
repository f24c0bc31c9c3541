/-!
# Implicit types

Text without quotes is read as a boolean, a null, a number, a point in time or one of two special
keys if it has the form of one. Text that is meant as text must be quoted then.
-/
namespace PropertyFiles.Listing.Yaml.Implicit

inductive Tag
  | text
  | boolean
  | null
  | integer
  | real
  | moment
  | value
  | merge
deriving DecidableEq, Repr

def booleans : List String := [
  "yes", "Yes", "YES", "no", "No", "NO", "true", "True", "TRUE", "false", "False", "FALSE",
  "on", "On", "ON", "off", "Off", "OFF"]

def nulls : List String := ["", "~", "null", "Null", "NULL"]

def isWordOf (words : List String) (cs : List Char) : Bool :=
  words.any (·.toList == cs)

def isGroupedDigit (c : Char) : Bool :=
  c.isDigit || c == '_'

def unsigned : List Char → List Char
  | '+' :: rest => rest
  | '-' :: rest => rest
  | cs => cs

def areSome (p : Char → Bool) (cs : List Char) : Bool :=
  !cs.isEmpty && cs.all p

def isNumeral : List Char → Bool
  | [] => false
  | c :: rest => c.isDigit && rest.all isGroupedDigit

/-- One or two digits below sixty. -/
def isSixtieth : List Char → Bool
  | [c] => c.isDigit
  | [c, d] => '0' ≤ c && c ≤ '5' && d.isDigit
  | _ => false

/-- A numeral whose places after the first are counted in sixties, set off by colons. -/
def isSexagesimal (cs : List Char) : Bool :=
  match cs.splitOn ':' with
  | first :: place :: places => isNumeral first && (place :: places).all isSixtieth
  | _ => false

/-- A binary, octal, decimal, hexadecimal or sexagesimal integer without sign. -/
def isUnsignedInteger : List Char → Bool
  | [] => false
  | ['0'] => true
  | '0' :: 'b' :: rest => areSome (fun c => c == '0' || c == '1' || c == '_') rest
  | '0' :: 'x' :: rest =>
    areSome (fun c => isGroupedDigit c || ('a' ≤ c && c ≤ 'f') || ('A' ≤ c && c ≤ 'F')) rest
  | '0' :: rest => areSome (fun c => ('0' ≤ c && c ≤ '7') || c == '_') rest
  | cs => isNumeral cs || isSexagesimal cs

def isInteger (cs : List Char) : Bool :=
  isUnsignedInteger (unsigned cs)

def isExponent : List Char → Bool
  | [] => true
  | e :: sign :: digits =>
    (e == 'e' || e == 'E') && (sign == '+' || sign == '-') && areSome Char.isDigit digits
  | _ => false

def isFraction (cs : List Char) : Bool :=
  isExponent (cs.dropWhile isGroupedDigit)

def isPointed (cs : List Char) : Bool :=
  match cs.dropWhile (· ≠ '.') with
  | '.' :: fraction =>
    let whole := unsigned (cs.takeWhile (· ≠ '.'))
    (isNumeral whole && isFraction fraction) ||
      (isSexagesimal whole && fraction.all isGroupedDigit)
  | _ => false

/-- A number with a point, an infinity, or no number at all. -/
def isReal (cs : List Char) : Bool :=
  isPointed cs ||
    (match cs with
    | '.' :: c :: rest => c.isDigit && isFraction rest
    | _ => false) ||
    isWordOf [".inf", ".Inf", ".INF"] (unsigned cs) ||
    isWordOf [".nan", ".NaN", ".NAN"] cs

def afterDigits? (least most : Nat) (cs : List Char) : Option (List Char) :=
  let digits := cs.takeWhile Char.isDigit
  if least ≤ digits.length ∧ digits.length ≤ most then some (cs.dropWhile Char.isDigit) else none

def after? (c : Char) : List Char → Option (List Char)
  | [] => none
  | d :: rest => if d = c then some rest else none

def isDate (cs : List Char) : Bool :=
  (do
    let rest ← after? '-' (← afterDigits? 4 4 cs)
    let rest ← after? '-' (← afterDigits? 2 2 rest)
    afterDigits? 2 2 rest) == some []

def isGap (c : Char) : Bool :=
  c == ' ' || c == '\t'

/-- The difference to universal time: a `Z`, or a sign and hours, which minutes may follow. -/
def isZone : List Char → Bool
  | ['Z'] => true
  | sign :: rest =>
    (sign == '+' || sign == '-') &&
      match afterDigits? 1 2 rest with
      | some [] => true
      | some (':' :: minutes) => afterDigits? 2 2 minutes == some []
      | _ => false
  | [] => false

/-- What may follow the seconds: a fraction, then a zone with gaps in front of it. -/
def isAfterSeconds (cs : List Char) : Bool :=
  let rest := match cs with
    | '.' :: fraction => fraction.dropWhile Char.isDigit
    | _ => cs
  rest.isEmpty || isZone (rest.dropWhile isGap)

/-- The text after the mark between a date and a time: a letter or some gaps. -/
def afterTimeMark? : List Char → Option (List Char)
  | [] => none
  | c :: rest =>
    if c == 'T' || c == 't' then some rest
    else if isGap c then some (rest.dropWhile isGap)
    else none

def isDateTime (cs : List Char) : Bool :=
  (do
    let rest ← after? '-' (← afterDigits? 4 4 cs)
    let rest ← after? '-' (← afterDigits? 1 2 rest)
    let rest ← afterTimeMark? (← afterDigits? 1 2 rest)
    let rest ← after? ':' (← afterDigits? 1 2 rest)
    let rest ← after? ':' (← afterDigits? 2 2 rest)
    afterDigits? 2 2 rest).any isAfterSeconds

def tagOf (cs : List Char) : Tag :=
  if isWordOf booleans cs then .boolean
  else if isWordOf nulls cs then .null
  else if isInteger cs then .integer
  else if isReal cs then .real
  else if isDate cs || isDateTime cs then .moment
  else if isWordOf ["="] cs then .value
  else if isWordOf ["<<"] cs then .merge
  else .text

end PropertyFiles.Listing.Yaml.Implicit
