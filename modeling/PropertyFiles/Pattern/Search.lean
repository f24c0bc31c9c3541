import PropertyFiles.Pattern.Parser
import PropertyFiles.Pattern.Positions
/-!
# Searching for a pattern

In a given text an atom is a move: it leads from some positions on by no character or by one. A
pattern of moves leads from a set of positions to the set of positions where its matches can end.
A text contains a pattern if the set of all positions leads anywhere.
-/
namespace PropertyFiles

def Spot.holds (spot : Spot) (before : Option Char) (after : List Char) : Bool :=
  let wordBefore := before.any Text.isWord
  let wordAfter := after.head?.any Text.isWord
  match spot with
  | .start => before.isNone
  | .lastLineEnd => after == [] || after == ['\n']
  | .finish => after == []
  | .wordBoundary => wordBefore != wordAfter
  | .noWordBoundary => (before.isSome || after != []) && wordBefore == wordAfter

def Spot.tests (spot : Spot) : Option Char → List Char → List Bool
  | before, [] => [spot.holds before []]
  | before, c :: rest => spot.holds before (c :: rest) :: spot.tests (some c) rest

/-- A move in a text: the positions where it can be made, and the characters it takes. -/
structure Move where
  origins : Positions
  length : Nat

def Move.reach (move : Move) (set : Positions) : Positions :=
  (set &&& move.origins) <<< move.length

def Atom.inText (text : List Char) : Atom → Move
  | .one members => ⟨Positions.ofTests (text.map members.contains), 1⟩
  | .spot place => ⟨Positions.ofTests (place.tests none text), 0⟩

namespace Pattern

/-- The positions where matches that begin in a set can end. In a text of the given length, no more
rounds than that lead anywhere new. -/
def reach (length : Nat) : Pattern Move → Positions → Positions
  | empty, set => set
  | atom move, set => move.reach set
  | sequence first second, set => second.reach length (first.reach length set)
  | choice first second, set => first.reach length set ||| second.reach length set
  | repetition body least more, set =>
    let required := Positions.afterRounds (body.reach length) least set
    Positions.withinRounds (body.reach length) (more.getD length) required required

def foundIn (pattern : Pattern Atom) (text : String) : Bool :=
  let cs := text.toList
  (pattern.map (Atom.inText cs)).reach cs.length (Positions.below (cs.length + 1)) != 0

def reader : PatternReader := fun text =>
  (parse text).map foundIn

end Pattern
end PropertyFiles
