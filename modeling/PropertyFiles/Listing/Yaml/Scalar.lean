import PropertyFiles.Listing.Yaml.Implicit
import PropertyFiles.Text.Hex
/-!
# Scalars

A text is written plain if it can be read back as the same text, in single quotes if quotes are
enough for that, and in double quotes with escape sequences if it holds anything but printable
ASCII. A long text is folded: a space becomes a line break and the indentation.
-/
namespace PropertyFiles.Listing.Yaml

inductive Style
  | plain
  | single
  | double
deriving DecidableEq, Repr

def isDirect (c : Char) : Bool :=
  0x20 ≤ c.toNat && c.toNat ≤ 0x7E

def indicators : List Char :=
  ['#', ',', '[', ']', '\x7b', '\x7d', '&', '*', '!', '|', '>', '\x27', '\x22', '%', '@', '\x60']

/-- Whether a text holds a colon before a space or at its end, which would end a key. -/
def endsKey : List Char → Bool
  | [] => false
  | [c] => c == ':'
  | c :: d :: rest => (c == ':' && d == ' ') || endsKey (d :: rest)

/-- Whether a text holds a number sign after a space, which would begin a comment. -/
def beginsComment : List Char → Bool
  | c :: d :: rest => (c == ' ' && d == '#') || beginsComment (d :: rest)
  | _ => false

def isIndicated : List Char → Bool
  | [] => true
  | '-' :: '-' :: '-' :: _ => true
  | '.' :: '.' :: '.' :: _ => true
  | c :: rest =>
    indicators.contains c ||
      ((c == '?' || c == ':' || c == '-') && (rest.isEmpty || rest.head? == some ' '))

/-- Whether a text of direct characters needs quotes to be read as that text. -/
def needsQuotes (cs : List Char) : Bool :=
  isIndicated cs || cs.head? == some ' ' || cs.getLast? == some ' ' || endsKey cs ||
    beginsComment cs || Implicit.tagOf cs != .text

def styleOf (cs : List Char) : Style :=
  if !cs.all isDirect then .double
  else if needsQuotes cs then .single
  else .plain

def shortEscapes : List (Char × Char) := [
  ('\x00', '0'), ('\x07', 'a'), ('\x08', 'b'), ('\t', 't'), ('\n', 'n'), ('\x0b', 'v'),
  ('\x0c', 'f'), ('\r', 'r'), ('\x1b', 'e'), ('\x22', '\x22'), ('\\', '\\'), ('\x85', 'N'),
  ('\xa0', '_'), ('\u2028', 'L'), ('\u2029', 'P')]

def escaped (c : Char) : List Char :=
  match shortEscapes.lookup c with
  | some letter => ['\\', letter]
  | none =>
    if isDirect c then [c]
    else if c.toNat < 0x100 then '\\' :: 'x' :: Text.hexDigits .upper 2 c.toNat
    else if c.toNat < 0x10000 then '\\' :: 'u' :: Text.hexDigits .upper 4 c.toNat
    else '\\' :: 'U' :: Text.hexDigits .upper 8 c.toNat

def lineWidth : Nat := 80

def indentation : List Char := [' ', ' ']

/-- A text from a column on, with apostrophes doubled if it stands in single quotes. A single space
behind a word that goes beyond the line width is folded, except at the end; `afterWord` tells
whether the character before is there and no space. -/
def folded (style : Style) (foldable : Bool) : Nat → Bool → List Char → List Char
  | _, _, [] => []
  | column, afterWord, ' ' :: next :: rest =>
    if foldable && afterWord && next != ' ' && lineWidth < column then
      '\n' :: indentation ++ folded style foldable indentation.length false (next :: rest)
    else ' ' :: folded style foldable (column + 1) false (next :: rest)
  | column, _, c :: rest =>
    if style = .single ∧ c = '\x27' then
      '\x27' :: '\x27' :: folded style foldable (column + 2) true rest
    else c :: folded style foldable (column + 1) (c != ' ') rest

def scalar (foldable : Bool) (column : Nat) (cs : List Char) : List Char :=
  match styleOf cs with
  | .plain => folded .plain foldable column false cs
  | .single => '\x27' :: folded .single foldable (column + 1) false cs ++ ['\x27']
  | .double => '\x22' :: cs.flatMap escaped ++ ['\x22']

end PropertyFiles.Listing.Yaml
