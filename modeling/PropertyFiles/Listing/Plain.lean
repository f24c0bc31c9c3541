import PropertyFiles.OrderedMap.Basic
import PropertyFiles.Text.Terminal
/-!
# Plain listings

Properties as lines of a property file, written to whatever the output is.
-/
namespace PropertyFiles.Listing

/-- A text and a line feed, as output shows them. -/
def shownLine (text : String) : String :=
  String.ofList (Text.withoutControls text.toList) ++ "\n"

def plain (properties : OrderedMap String String) : String :=
  String.join (properties.entries.map fun e => shownLine (e.1 ++ "=" ++ e.2))

end PropertyFiles.Listing
