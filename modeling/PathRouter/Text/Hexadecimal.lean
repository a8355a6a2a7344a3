/-!
# Hexadecimal numerals

Numerals of a fixed number of digits, in lower case, and the values of digits
of either case.
-/

namespace PathRouter
namespace Text

/-- The lower-case digit of a value below sixteen. -/
def hexDigit (value : Nat) : Char :=
  if value < 10 then Char.ofNat (0x30 + value) else Char.ofNat (0x57 + value)

/-- The value of a hexadecimal digit of either case. -/
def hexDigitValue? (c : Char) : Option Nat :=
  if '0' ≤ c ∧ c ≤ '9' then some (c.toNat - 0x30)
  else if 'a' ≤ c ∧ c ≤ 'f' then some (c.toNat - 0x57)
  else if 'A' ≤ c ∧ c ≤ 'F' then some (c.toNat - 0x37)
  else none

/-- The last `width` digits of the numeral of `n`. -/
def fixedHex : Nat → Nat → List Char
  | 0, _ => []
  | width + 1, n => fixedHex width (n / 16) ++ [hexDigit (n % 16)]

/-- The value of a run of hexadecimal digits, or `none` if another character
stands among them. -/
def hexValue? (digits : List Char) : Option Nat :=
  digits.foldl
    (fun value? c => do return 16 * (← value?) + (← hexDigitValue? c)) (some 0)

@[simp] theorem length_fixedHex (width n : Nat) :
    (fixedHex width n).length = width := by
  induction width generalizing n with
  | zero => rfl
  | succ width inductionHypothesis => simp [fixedHex, inductionHypothesis]

end Text
end PathRouter
