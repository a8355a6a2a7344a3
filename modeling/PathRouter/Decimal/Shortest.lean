/-!
# Shortest decimals

A finite binary number stands for an interval of reals, those that round to it.
Among the decimals in that interval the shortest is written, and of two equally
short ones the nearer.  It is found by exact arithmetic: for one digit, two
digits, and so on, the two neighbours of the number on that decimal grid are
compared with the ends of the interval.

Numbers from one ten-thousandth up to ten to the sixteenth are written
positionally and keep a fractional digit; all others have one digit before the
point and an exponent of at least two digits.
-/

namespace PathRouter
namespace Decimal

/-- A finite number of at least zero, `mantissa * 2 ^ exponent`. -/
structure Binary where
  /-- The integral mantissa. -/
  mantissa : Nat
  /-- The exponent of two. -/
  exponent : Int
  /-- The next number below is half as far away as the next one above. -/
  narrowBelow : Bool

/-- The first number of 53 binary digits. -/
def hiddenBit : Nat := 0x10000000000000

/-- The absolute value of a finite number. -/
def Binary.ofFloat (x : Float) : Binary :=
  let bits := x.toBits.toNat
  let exponent : Nat := bits / hiddenBit % 0x800
  let fraction : Nat := bits % hiddenBit
  if exponent = 0 then ⟨fraction, -1074, false⟩
  else
    ⟨hiddenBit + fraction, (exponent : Int) - 1075,
      fraction = 0 && 1 < exponent⟩

/-- A decimal, `digits * 10 ^ exponent`. -/
structure Scaled where
  /-- The integral digits. -/
  digits : Nat
  /-- The exponent of ten. -/
  exponent : Int
deriving DecidableEq, Repr

/-- A power; exponents below zero count as zero. -/
def power (base : Nat) (exponent : Int) : Nat := base.pow exponent.toNat

/-- Compares `a * 10 ^ i` with `b * 2 ^ j`. -/
def compareScaled (a : Nat) (i : Int) (b : Nat) (j : Int) : Ordering :=
  compare (a * power 10 i * power 2 (-j)) (b * power 2 j * power 10 (-i))

namespace Binary

/-- The number as a numerator and a denominator. -/
def fraction (x : Binary) : Nat × Nat :=
  (x.mantissa * power 2 x.exponent, power 2 (-x.exponent))

/-- Whether a decimal lies among the reals that round to the number.  The ends
of the interval belong to it exactly when the mantissa is even. -/
def covers (x : Binary) (d : Scaled) : Bool :=
  let low := 4 * x.mantissa - (if x.narrowBelow then 1 else 2)
  let high := 4 * x.mantissa + 2
  let even := x.mantissa % 2 = 0
  let above := compareScaled d.digits d.exponent low (x.exponent - 2)
  let below := compareScaled d.digits d.exponent high (x.exponent - 2)
  (above == .gt || even && above == .eq) &&
    (below == .lt || even && below == .eq)

/-- Whether the number is below `10 ^ k`. -/
def isBelowPower (x : Binary) (k : Int) : Bool :=
  compareScaled 1 k x.mantissa x.exponent == .gt

/-- The least `k` in a range of exponents such that the number is below
`10 ^ k`. -/
def scale (x : Binary) : Int :=
  let candidates := (List.range 640).map fun (i : Nat) => (i : Int) - 325
  (candidates.find? x.isBelowPower).getD 0

/-- The number divided by `10 ^ k`, as a fraction. -/
def overPower (x : Binary) (k : Int) : Nat × Nat :=
  (x.mantissa * power 2 x.exponent * power 10 (-k),
    power 2 (-x.exponent) * power 10 k)

/-- The best decimal on the grid of `10 ^ k`, if one there stands for the
number. -/
def onGrid? (x : Binary) (k : Int) : Option Scaled :=
  let (numerator, denominator) := x.overPower k
  let below := numerator / denominator
  let lower : Scaled := ⟨below, k⟩
  let upper : Scaled := ⟨below + 1, k⟩
  match x.covers lower, x.covers upper with
  | true, false => some lower
  | false, true => some upper
  | false, false => none
  | true, true =>
      match compare (2 * numerator) ((2 * below + 1) * denominator) with
      | .lt => some lower
      | .gt => some upper
      | .eq => some (if below % 2 = 0 then lower else upper)

/-- The shortest decimal that stands for the number, and the exact value if
none of seventeen digits did. -/
def shortest (x : Binary) : Scaled :=
  let scale := x.scale
  let found := (List.range 17).findSome? fun (n : Nat) =>
    x.onGrid? (scale - ((n : Int) + 1))
  match found with
  | some d => d
  | none =>
      if 0 ≤ x.exponent then ⟨x.mantissa * power 2 x.exponent, 0⟩
      else ⟨x.mantissa * power 5 (-x.exponent), x.exponent⟩

end Binary

/-- Drops trailing zeros of a row of digits. -/
def dropZeros (digits : List Char) : List Char :=
  (digits.reverse.dropWhile (· = '0')).reverse

/-- The layout of a decimal with the given digits, the first of which has the
place value `10 ^ (point - 1)`. -/
def layout (digits : List Char) (point : Int) : List Char :=
  if -4 < point ∧ point ≤ 16 then
    if point ≤ 0 then
      '0' :: '.' :: (List.replicate (-point).toNat '0' ++ digits)
    else
      let whole := digits.take point.toNat
      let padded := whole ++ List.replicate (point.toNat - whole.length) '0'
      let rest := digits.drop point.toNat
      padded ++ '.' :: (if rest.isEmpty then ['0'] else rest)
  else
    let exponent := point - 1
    let size := (toString exponent.natAbs).toList
    let padded := List.replicate (2 - size.length) '0' ++ size
    let mark := if exponent < 0 then '-' else '+'
    let mantissa :=
      match digits with
      | [] => []
      | [d] => [d]
      | d :: rest => d :: '.' :: rest
    mantissa ++ 'e' :: mark :: padded

/-- The text of a number. -/
def render (x : Float) : String :=
  let sign := if 0x8000000000000000 ≤ x.toBits.toNat then "-" else ""
  if x.isNaN then "nan"
  else if x.isInf then sign ++ "inf"
  else if x == 0 then sign ++ "0.0"
  else
    let d := (Binary.ofFloat x).shortest
    let digits := (toString d.digits).toList
    let point := (digits.length : Int) + d.exponent
    sign ++ String.ofList (layout (dropZeros digits) point)

end Decimal
end PathRouter
