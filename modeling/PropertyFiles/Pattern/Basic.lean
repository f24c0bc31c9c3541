import PropertyFiles.Text.Blank
import PropertyFiles.Text.Word
/-!
# Patterns

Regular expressions over characters: sets of characters, positions, sequences, choices and
repetitions. What is asked of a pattern is whether a text contains a match. No part of a pattern looks at
how the other parts have matched, so that it does not matter which of several matches would be preferred.
-/
namespace PropertyFiles

inductive CharSet
  | single (c : Char)
  | range (first last : Char)
  | decimal
  | word
  | blank
  | complement (set : CharSet)
  | union (left right : CharSet)
deriving DecidableEq, Repr

namespace CharSet

def contains : CharSet → Char → Bool
  | single c, d => d == c
  | range first last, d => first ≤ d && d ≤ last
  | decimal, d => Text.isDecimal d
  | word, d => Text.isWord d
  | blank, d => Text.isBlank d
  | complement set, d => !set.contains d
  | union left right, d => left.contains d || right.contains d

def notLineFeed : CharSet := complement (single '\n')

end CharSet

inductive Spot
  | start
  /-- The end of the text, or the place before a line feed that ends it. -/
  | lastLineEnd
  | finish
  /-- A place between a word character and another character or an end of the text. -/
  | wordBoundary
  /-- Any other place in a text that is not empty. -/
  | noWordBoundary
deriving DecidableEq, Repr

/-- The smallest parts of a pattern: a character of a set, or a position with a property. -/
inductive Atom
  | one (set : CharSet)
  | spot (spot : Spot)
deriving DecidableEq, Repr

inductive Pattern (α : Type)
  | empty
  | atom (a : α)
  | sequence (first second : Pattern α)
  | choice (first second : Pattern α)
  /-- The body `least` times and after that any number of times, or no more than `more` times. -/
  | repetition (body : Pattern α) (least : Nat) (more : Option Nat)
deriving DecidableEq, Repr

def Pattern.map (f : α → β) : Pattern α → Pattern β
  | empty => empty
  | atom a => atom (f a)
  | sequence first second => sequence (first.map f) (second.map f)
  | choice first second => choice (first.map f) (second.map f)
  | repetition body least more => repetition (body.map f) least more

inductive PatternFault
  | invalid
  /-- A repetition with a count that is too large. -/
  | tooLarge
deriving DecidableEq, Repr

/-- A way to read written patterns: each becomes a test of texts or has a fault. -/
abbrev PatternReader :=
  String → Except PatternFault (String → Bool)

end PropertyFiles
