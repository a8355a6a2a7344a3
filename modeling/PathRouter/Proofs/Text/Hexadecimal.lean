import Mathlib
import PathRouter.Text.Hexadecimal

/-!
# Reading hexadecimal numerals

A numeral of a fixed number of digits is read as the number that was written,
and what has a value consists of digits.

## Main statements

* `hexValue?_fixedHex`: a numeral has the value that it was written for.
* `isSome_hexDigitValue?_of_hexValue?`: all characters of a numeral are digits.
-/

namespace PathRouter
namespace Text

theorem hexDigitValue?_hexDigit :
    ∀ value : Fin 16, hexDigitValue? (hexDigit value) = some value.val := by
  decide

/-- Digits behind others shift their value. -/
theorem hexValue?_append_singleton (digits : List Char) (c : Char) :
    hexValue? (digits ++ [c]) = do
      return 16 * (← hexValue? digits) + (← hexDigitValue? c) := by
  rw [hexValue?, List.foldl_append]
  rfl

/-- A numeral has the value that it was written for. -/
theorem hexValue?_fixedHex
    {width n : Nat}
    (fits : n < 16 ^ width) :
    hexValue? (fixedHex width n) = some n := by
  induction width generalizing n with
  | zero =>
      have zero : n = 0 := by simpa using fits
      rw [zero]
      rfl
  | succ width inductionHypothesis =>
      have front : n / 16 < 16 ^ width := by
        rw [Nat.pow_succ] at fits
        omega
      have last := hexDigitValue?_hexDigit ⟨n % 16, by omega⟩
      dsimp only at last
      rw [fixedHex, hexValue?_append_singleton, inductionHypothesis front, last]
      change some (16 * (n / 16) + n % 16) = some n
      rw [Nat.div_add_mod]

/-- All characters of a numeral are digits. -/
theorem isSome_hexDigitValue?_of_hexValue?
    {digits : List Char}
    {value : Nat}
    (read : hexValue? digits = some value)
    {c : Char}
    (member : c ∈ digits) :
    (hexDigitValue? c).isSome = true := by
  induction digits using List.reverseRecOn generalizing value with
  | nil => cases member
  | append_singleton front last inductionHypothesis =>
      rw [hexValue?_append_singleton] at read
      obtain ⟨frontValue, isFront, read⟩ := Option.bind_eq_some_iff.mp read
      obtain ⟨lastValue, isLast, _⟩ := Option.bind_eq_some_iff.mp read
      rcases List.mem_append.mp member with inFront | isLastOne
      · exact inductionHypothesis isFront inFront
      · rw [List.mem_singleton.mp isLastOne, isLast]
        rfl

end Text
end PathRouter
