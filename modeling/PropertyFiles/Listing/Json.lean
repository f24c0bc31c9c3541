import PropertyFiles.OrderedMap.Basic
import PropertyFiles.Text.Hex
/-!
# JSON listings

An object with a member on each line. Only printable ASCII characters are written; any other
character is escaped, one beyond sixteen bits as a pair of surrogates.
-/
namespace PropertyFiles.Listing.Json

def unitEscape (n : Nat) : List Char :=
  '\\' :: 'u' :: Text.hexDigits .lower 4 n

def escaped (c : Char) : List Char :=
  if c = '\x22' then ['\\', '\x22']
  else if c = '\\' then ['\\', '\\']
  else if c = '\x08' then ['\\', 'b']
  else if c = '\x0c' then ['\\', 'f']
  else if c = '\n' then ['\\', 'n']
  else if c = '\r' then ['\\', 'r']
  else if c = '\t' then ['\\', 't']
  else if 0x20 ≤ c.toNat ∧ c.toNat ≤ 0x7E then [c]
  else if c.toNat < 0x10000 then unitEscape c.toNat
  else
    unitEscape (0xD800 + (c.toNat - 0x10000) / 0x400) ++
      unitEscape (0xDC00 + (c.toNat - 0x10000) % 0x400)

def string (text : String) : String :=
  String.ofList ('\x22' :: text.toList.flatMap escaped ++ ['\x22'])

def member (key value : String) : String :=
  "  " ++ string key ++ ": " ++ string value

def object (properties : OrderedMap String String) : String :=
  match properties.entries.map fun e => member e.1 e.2 with
  | [] => "\x7b\x7d"
  | members => "\x7b\n" ++ ",\n".intercalate members ++ "\n\x7d"

end PropertyFiles.Listing.Json
