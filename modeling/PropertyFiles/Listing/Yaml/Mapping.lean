import PropertyFiles.Listing.Yaml.Scalar
import PropertyFiles.OrderedMap.Basic
/-!
# YAML listings

A mapping with an entry for each property. An entry takes one line, longer values apart; a key that
is too long for that is set off by a question mark and its value by a colon.
-/
namespace PropertyFiles.Listing.Yaml

/-- The length from which on a key stands on a line of its own. -/
def longKey : Nat := 123

def isShortKey (key : List Char) : Bool :=
  !key.isEmpty && key.length < longKey

def entry (key value : List Char) : List Char :=
  if isShortKey key then
    let written := scalar false 0 key
    written ++ [':', ' '] ++ scalar true (written.length + 2) value ++ ['\n']
  else
    ['?', ' '] ++ scalar true 2 key ++ ['\n', ':', ' '] ++ scalar true 2 value ++ ['\n']

def mapping (properties : OrderedMap String String) : String :=
  match properties.entries with
  | [] => "\x7b\x7d\n"
  | entries => String.ofList (entries.flatMap fun e => entry e.1.toList e.2.toList)

end PropertyFiles.Listing.Yaml
