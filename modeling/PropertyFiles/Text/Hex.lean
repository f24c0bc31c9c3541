/-!
# Hexadecimal numerals

Numerals of a fixed width, as escape sequences use them.
-/
namespace PropertyFiles.Text

inductive HexCase
  | lower
  | upper
deriving DecidableEq, Repr

def hexDigit (letters : HexCase) (n : Nat) : Char :=
  if n < 10 then Char.ofNat (48 + n)
  else match letters with
    | .lower => Char.ofNat (87 + n)
    | .upper => Char.ofNat (55 + n)

/-- The last `width` hexadecimal digits of a number, most significant digit first. -/
def hexDigits (letters : HexCase) : Nat → Nat → List Char
  | 0, _ => []
  | width + 1, n => hexDigits letters width (n / 16) ++ [hexDigit letters (n % 16)]

def hexValue? (c : Char) : Option Nat :=
  let n := c.toNat
  if 48 ≤ n && n ≤ 57 then some (n - 48)
  else if 97 ≤ n && n ≤ 102 then some (n - 87)
  else if 65 ≤ n && n ≤ 70 then some (n - 55)
  else none

/-- What holds of the sixteen digits holds of every digit of a numeral. -/
theorem forall_mem_hexDigits {letters : HexCase} (p : Char → Prop)
    (h : ∀ digit, digit < 16 → p (hexDigit letters digit)) (width n : Nat) :
    ∀ c ∈ hexDigits letters width n, p c := by
  induction width generalizing n with
  | zero => simp [hexDigits]
  | succ width ih =>
    intro c hc
    rw [hexDigits, List.mem_append, List.mem_singleton] at hc
    rcases hc with hc | rfl
    · exact ih (n / 16) c hc
    · exact h (n % 16) (Nat.mod_lt n (by decide))

theorem hexValue?_hexDigit (letters : HexCase) {n : Nat} (h : n < 16) :
    hexValue? (hexDigit letters n) = some n := by
  cases letters <;> revert n <;> decide

end PropertyFiles.Text
