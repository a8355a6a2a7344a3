import PathRouter.Text.Alphanumeric

/-!
# Integer numerals

A numeral may stand between blanks, may have a sign, may use the decimal digits
of any script, and may have a single low line between two digits.
-/

namespace PathRouter
namespace Text

/-- The decimal value of a row of digits. -/
def digitsValue (digits : List Nat) : Nat :=
  digits.foldl (fun value digit => 10 * value + digit) 0

/-- The digits of a row in which single low lines may stand between digits. -/
def separatedDigits? : List Char → Option (List Nat)
  | [] => none
  | [c] => (decimalDigitValue? c.toNat).map ([·])
  | c :: '_' :: rest => do
      let digit ← decimalDigitValue? c.toNat
      let digits ← separatedDigits? rest
      return digit :: digits
  | c :: rest => do
      let digit ← decimalDigitValue? c.toNat
      let digits ← separatedDigits? rest
      return digit :: digits

/-- Blanks that may surround a numeral: among the first 128 code points the
information separators do not count. -/
def surroundsNumeral (c : Char) : Bool :=
  if c.toNat < 0x80 then isAsciiBlank c.toNat else isBlank c.toNat

/-- The text without the blanks at its ends. -/
def trimNumeral (text : List Char) : List Char :=
  ((text.dropWhile surroundsNumeral).reverse.dropWhile
    surroundsNumeral).reverse

/-- The integer that a numeral of at most `maxDigits` digits stands for. -/
def integer? (maxDigits : Nat) (text : List Char) : Option Int := do
  let (negative, digits) :=
    match trimNumeral text with
    | '-' :: rest => (true, rest)
    | '+' :: rest => (false, rest)
    | rest => (false, rest)
  let digits ← separatedDigits? digits
  if digits.length ≤ maxDigits then
    let value : Int := digitsValue digits
    return if negative then -value else value
  else none

end Text
end PathRouter
