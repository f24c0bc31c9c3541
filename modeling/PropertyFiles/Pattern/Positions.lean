/-!
# Sets of positions

A position in a text is the number of characters before it. A set of positions is a binary numeral:
the digit of weight `2 ^ i` tells whether position `i` is in the set. Unions, intersections and
shifts of sets are then bitwise operations.
-/
namespace PropertyFiles

/-- A set of positions as a binary numeral. -/
abbrev Positions := Nat

namespace Positions

def contains (set : Positions) (i : Nat) : Bool :=
  set.testBit i

/-- The numeral with given digits, the digit of weight one first. -/
def numeral : List Bool → Nat
  | [] => 0
  | digit :: digits => 2 * numeral digits + digit.toNat

/-- The positions where a list of tests holds, the first test being that of position zero. The
numeral is put together from blocks of digits, so that most of the sums are of small numbers. -/
def ofTests (tests : List Bool) : Positions :=
  match h : tests.drop 48 with
  | [] => numeral tests
  | test :: rest =>
    have : (test :: rest).length < tests.length := by
      have := congrArg List.length h
      simp only [List.length_drop, List.length_cons] at this ⊢
      omega
    ofTests (test :: rest) <<< 48 + numeral (tests.take 48)
termination_by tests.length

def only (i : Nat) : Positions :=
  1 <<< i

def below (n : Nat) : Positions :=
  only n - 1

def without (set other : Positions) : Positions :=
  set ^^^ (set &&& other)

/-- The positions of a set after one round repeated `count` times. A set that a round does not
change stays as it is. -/
def afterRounds (round : Positions → Positions) : Nat → Positions → Positions
  | 0, set => set
  | count + 1, set =>
    let next := round set
    if next = set then set else afterRounds round count next

/-- The positions found so far, and those that at most `count` rounds lead to from the latest. -/
def withinRounds (round : Positions → Positions) :
    Nat → Positions → Positions → Positions
  | 0, found, _ => found
  | count + 1, found, latest =>
    let new := without (round latest) found
    if new = 0 then found else withinRounds round count (found ||| new) new

private theorem numeral_append (first second : List Bool) :
    numeral (first ++ second) = numeral second <<< first.length + numeral first := by
  induction first with
  | nil => simp [numeral]
  | cons digit first ih =>
    simp only [List.cons_append, numeral, ih, List.length_cons, Nat.shiftLeft_eq, Nat.pow_succ]
    rw [Nat.mul_comm _ 2, Nat.mul_add, Nat.mul_left_comm, Nat.add_assoc]

/-- Reading the digits in blocks gives the numeral of all of them. -/
theorem ofTests_eq_numeral (tests : List Bool) : ofTests tests = numeral tests := by
  fun_induction ofTests tests with
  | case1 => rfl
  | case2 tests test rest h _ ih =>
    have hl : (tests.take 48).length = 48 := by
      have := congrArg List.length h
      simp only [List.length_drop, List.length_cons] at this
      simp only [List.length_take]
      omega
    rw [ih, ← h]
    conv => rhs; rw [← List.take_append_drop 48 tests, numeral_append, hl]

private theorem testBit_numeral (digits : List Bool) (i : Nat) :
    (numeral digits).testBit i = digits.getD i false := by
  induction digits generalizing i with
  | nil => simp [numeral]
  | cons digit digits ih =>
    cases i with
    | zero => cases digit <;> simp [numeral, Nat.testBit_zero]
    | succ i =>
      have h : (2 * numeral digits + digit.toNat) / 2 = numeral digits := by
        have := Bool.toNat_lt digit
        omega
      rw [numeral, Nat.testBit_succ, h, ih]; rfl

theorem contains_ofTests (tests : List Bool) (i : Nat) :
    contains (ofTests tests) i = tests.getD i false := by
  rw [contains, ofTests_eq_numeral, testBit_numeral]

@[simp] theorem contains_below (n i : Nat) : contains (below n) i = decide (i < n) := by
  rw [contains, below, only, Nat.one_shiftLeft, Nat.testBit_two_pow_sub_one]

theorem contains_without (set other : Positions) (i : Nat) :
    contains (without set other) i = (contains set i && !contains other i) := by
  rw [contains, without, Nat.testBit_xor, Nat.testBit_and]
  cases h : set.testBit i <;> cases ho : other.testBit i <;> simp [contains, h, ho]

theorem repeat_succ (round : Positions → Positions) (count : Nat) (set : Positions) :
    Nat.repeat round (count + 1) set = Nat.repeat round count (round set) := by
  induction count with
  | zero => rfl
  | succ count ih => exact congrArg round ih

private theorem repeat_of_fixed {round : Positions → Positions} {set : Positions}
    (h : round set = set) (count : Nat) : Nat.repeat round count set = set := by
  induction count with
  | zero => rfl
  | succ count ih => exact (congrArg round ih).trans h

/-- Rounds that stop at a set that no longer changes give what all rounds would. -/
theorem afterRounds_eq_repeat (round : Positions → Positions) (count : Nat) (set : Positions) :
    afterRounds round count set = Nat.repeat round count set := by
  induction count generalizing set with
  | zero => rfl
  | succ count ih =>
    by_cases h : round set = set
    · exact (if_pos h).trans (repeat_of_fixed h (count + 1)).symm
    · exact (if_neg h).trans ((ih (round set)).trans (repeat_succ round count set).symm)

end Positions
end PropertyFiles
