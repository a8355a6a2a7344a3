/-!
# Reading decimals

The number nearest to a decimal.  Exponents far outside of the range of the
numbers are decided without computing powers of ten.
-/

namespace PathRouter
namespace Decimal

/-- The value of a digit. -/
def digitValue (c : Char) : Nat := c.toNat - 0x30

/-- The value of a row of digits. -/
def natOfDigits (digits : List Char) : Nat :=
  digits.foldl (fun value c => 10 * value + digitValue c) 0

/-- No number but zero has its leading digit this many places away from the
point. -/
def farExponent : Int := 400

/-- The number nearest to `digits * 10 ^ exponent`. -/
def nearest (digits : List Char) (exponent : Int) : Float :=
  let significant := digits.dropWhile (· = '0')
  let leading := (significant.length : Int) + exponent
  if significant.isEmpty then 0.0
  else if farExponent < leading then 1.0 / 0.0
  else if leading < -farExponent then 0.0
  else
    Float.ofScientific (natOfDigits significant) (exponent < 0)
      exponent.natAbs

/-- The number nearest to a decimal that is given by the digits before and
behind its point and by its exponent. -/
def ofParts (negative : Bool) (whole fraction : List Char)
    (exponent : Int) : Float :=
  let size := nearest (whole ++ fraction) (exponent - fraction.length)
  if negative then -size else size

/-- An integer with an optional sign. -/
def signed? (text : List Char) : Option Int :=
  let (negative, digits) :=
    match text with
    | '-' :: rest => (true, rest)
    | '+' :: rest => (false, rest)
    | rest => (false, rest)
  if digits.isEmpty || !digits.all Char.isDigit then none
  else some (if negative then -natOfDigits digits else natOfDigits digits)

/-- The number that a text stands for: digits, perhaps with a sign, a point and
an exponent, or one of the words for infinity and for no number. -/
def ofText? (text : List Char) : Option Float := do
  let (negative, size) :=
    match text with
    | '-' :: rest => (true, rest)
    | '+' :: rest => (false, rest)
    | rest => (false, rest)
  if size = ['i', 'n', 'f'] then
    return if negative then -1.0 / 0.0 else 1.0 / 0.0
  else if size = ['n', 'a', 'n'] then return 0.0 / 0.0
  else
    let isMark (c : Char) : Bool := c == 'e' || c == 'E'
    let mantissa := size.takeWhile (!isMark ·)
    let exponent ←
      match size.dropWhile (!isMark ·) with
      | [] => some 0
      | _ :: rest => signed? rest
    let whole := mantissa.takeWhile (· ≠ '.')
    let fraction := (mantissa.dropWhile (· ≠ '.')).drop 1
    if (whole ++ fraction).isEmpty then none
    else if (whole ++ fraction).all Char.isDigit then
      return ofParts negative whole fraction exponent
    else none

end Decimal
end PathRouter
