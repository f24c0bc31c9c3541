import PropertyFiles.OrderedMap.Basic
import PropertyFiles.Pattern.Basic
/-!
# Filters

A filter selects keys by a test, by the text they begin with, or by both. The test is most often
that the key contains a pattern.
-/
namespace PropertyFiles

/-- The conditions on a key; one that is not given holds of every key. -/
structure Filter where
  test : Option (String → Bool) := none
  leading : Option String := none

namespace Filter

def accepts (filter : Filter) (key : String) : Bool :=
  filter.leading.all (fun leading => leading.toList.isPrefixOf key.toList) &&
    filter.test.all (· key)

def select (filter : Filter) (m : OrderedMap String α) : OrderedMap String α :=
  m.filterKeys filter.accepts

/-- The filter for keys that pass the test of a written pattern and begin with a text, each of them
optional. -/
def ofPattern (read : PatternReader) (pattern leading : Option String) : Except PatternFault Filter :=
  match pattern with
  | none => .ok ⟨none, leading⟩
  | some text => (read text).map fun test => ⟨some test, leading⟩

end Filter
end PropertyFiles
