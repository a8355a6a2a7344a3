import PathRouter.Decimal.Reading
import PathRouter.Text.Hexadecimal
import PathRouter.Toml.Blank
import PathRouter.Value

/-!
# Numerals in documents

An integer may be written to base two, eight, ten or sixteen, and a binary
fraction to base ten.  Single low lines may stand between digits.  Words stand
for the infinities and for no number.
-/

namespace PathRouter
namespace Toml

/-- More digits at the front of a text, each perhaps behind a low line, and
what stands behind them. -/
def moreDigits (isDigit : Char → Bool) : List Char → List Char × List Char
  | [] => ([], [])
  | c :: rest =>
      if isDigit c then
        let (digits, behind) := moreDigits isDigit rest
        (c :: digits, behind)
      else if c = '_' then
        match rest with
        | d :: more =>
            if isDigit d then
              let (digits, behind) := moreDigits isDigit more
              (d :: digits, behind)
            else ([], c :: rest)
        | [] => ([], [c])
      else ([], c :: rest)

/-- The digits at the front of a text without their low lines, and what stands
behind them; there are none if the text starts with no digit. -/
def groupedDigits (isDigit : Char → Bool) : List Char → List Char × List Char
  | [] => ([], [])
  | c :: rest =>
      if isDigit c then moreDigits isDigit (c :: rest) else ([], c :: rest)

/-- The digits that a letter behind a zero announces, with their base. -/
def announcedDigits? : Char → Option (Nat × (Char → Bool))
  | 'x' => some (16, fun c => (Text.hexDigitValue? c).isSome)
  | 'o' => some (8, fun c => '0' ≤ c && c ≤ '7')
  | 'b' => some (2, fun c => c == '0' || c == '1')
  | _ => none

/-- The value of digits to a base. -/
def valueToBase (base : Nat) (digits : List Char) : Nat :=
  digits.foldl (fun value c => base * value + (Text.hexDigitValue? c).getD 0) 0

/-- The integer behind a zero and a letter that announces its base, and what
stands behind it. -/
def announcedInteger? : List Char → Option (Value × List Char)
  | '0' :: letter :: rest => do
      let (base, isDigit) ← announcedDigits? letter
      let (digits, behind) := groupedDigits isDigit rest
      if digits.isEmpty then none
      else some (.int (valueToBase base digits), behind)
  | _ => none

/-- The sign at the front of a text, and what stands behind it. -/
def leadingSign : List Char → Bool × List Char
  | '-' :: text => (true, text)
  | '+' :: text => (false, text)
  | text => (false, text)

/-- The digits of the integer at the front of a text, and what stands behind
them.  A zero is not followed by digits. -/
def leadingWhole : List Char → List Char × List Char
  | '0' :: text => (['0'], text)
  | text => groupedDigits Char.isDigit text

/-- The digits behind a point at the front of a text, and what stands behind
them.  A point without digits is none. -/
def leadingFraction : List Char → List Char × List Char
  | '.' :: text =>
      let (digits, behind) := groupedDigits Char.isDigit text
      if digits.isEmpty then ([], '.' :: text) else (digits, behind)
  | text => ([], text)

/-- The exponent at the front of a text, and what stands behind it. -/
def leadingExponent (text : List Char) : Option Int × List Char :=
  match text with
  | mark :: rest =>
      if mark = 'e' ∨ mark = 'E' then
        let (negative, unsigned) := leadingSign rest
        let (digits, behind) := groupedDigits Char.isDigit unsigned
        let size : Int := Decimal.natOfDigits digits
        if digits.isEmpty then (none, text)
        else (some (if negative then -size else size), behind)
      else (none, text)
  | [] => (none, text)

/-- The number to base ten at the front of a text, and what stands behind
it. -/
def leadingDecimal? (text : List Char) :
    Option (Except Fault (Value × List Char)) :=
  let (negative, unsigned) := leadingSign text
  let (whole, behindWhole) := leadingWhole unsigned
  let (fraction, behindFraction) := leadingFraction behindWhole
  let (exponent?, behind) := leadingExponent behindFraction
  if whole.isEmpty then none
  else if fraction.isEmpty && exponent?.isNone then
    if Limit.maxNumeralDigits < whole.length then
      some (.error (.limit (.numeralDigits whole.length)))
    else
      let size : Int := Decimal.natOfDigits whole
      some (.ok (.int (if negative then -size else size), behind))
  else
    some (.ok (.float
      (Decimal.ofParts negative whole fraction (exponent?.getD 0)), behind))

/-- The words that are numbers. -/
def words : List (List Char × Float) :=
  [("inf".toList, 1.0 / 0.0), ("nan".toList, 0.0 / 0.0),
    ("-inf".toList, -1.0 / 0.0), ("+inf".toList, 1.0 / 0.0),
    ("-nan".toList, 0.0 / 0.0), ("+nan".toList, 0.0 / 0.0)]

/-- The number that a word at the front of a text stands for, and what stands
behind it. -/
def leadingWord? (text : List Char) : Option (Value × List Char) :=
  (words.find? fun (word, _) => word.isPrefixOf text).map fun (word, x) =>
    (.float x, text.drop word.length)

/-- The number at the front of a text, and what stands behind it. -/
def leadingNumber? (text : List Char) :
    Option (Except Fault (Value × List Char)) :=
  ((announcedInteger? text).map .ok) <|> leadingDecimal? text <|>
    ((leadingWord? text).map .ok)

/-! ## What is left -/

/-- Digits and what stands behind them are no longer than the text. -/
theorem length_moreDigits_le (isDigit : Char → Bool) (text : List Char) :
    (moreDigits isDigit text).1.length + (moreDigits isDigit text).2.length ≤
      text.length := by
  fun_induction moreDigits isDigit text <;>
    simp_all only [List.length_cons, List.length_nil] <;> omega

/-- Digits and what stands behind them are no longer than the text. -/
theorem length_groupedDigits_le (isDigit : Char → Bool) (text : List Char) :
    (groupedDigits isDigit text).1.length +
      (groupedDigits isDigit text).2.length ≤ text.length := by
  unfold groupedDigits
  split
  · simp
  · split
    · exact length_moreDigits_le _ _
    · simp

/-- What stands behind a sign is no longer than the text. -/
theorem length_leadingSign_le (text : List Char) :
    (leadingSign text).2.length ≤ text.length := by
  unfold leadingSign
  split <;> simp

/-- Digits and what stands behind them are no longer than the text. -/
theorem length_leadingWhole_le (text : List Char) :
    (leadingWhole text).1.length + (leadingWhole text).2.length ≤
      text.length := by
  unfold leadingWhole
  split
  · simp only [List.length_cons, List.length_nil]
    omega
  · exact length_groupedDigits_le _ _

/-- What stands behind a fraction is no longer than the text. -/
theorem length_leadingFraction_le (text : List Char) :
    (leadingFraction text).2.length ≤ text.length := by
  unfold leadingFraction
  split
  · next rest =>
      have bound := length_groupedDigits_le Char.isDigit rest
      dsimp only
      split <;> simp only [List.length_cons] <;> omega
  · exact Nat.le_refl _

/-- What stands behind an exponent is no longer than the text. -/
theorem length_leadingExponent_le (text : List Char) :
    (leadingExponent text).2.length ≤ text.length := by
  unfold leadingExponent
  split
  · next mark rest =>
      have sign := length_leadingSign_le rest
      have digits := length_groupedDigits_le Char.isDigit (leadingSign rest).2
      dsimp only
      split
      · split <;> simp only [List.length_cons] <;> omega
      · exact Nat.le_refl _
  · exact Nat.le_refl _

/-- What stands behind an integer whose base is announced is shorter than the
text. -/
theorem length_lt_of_announcedInteger? {text behind : List Char}
    {value : Value} (found : announcedInteger? text = some (value, behind)) :
    behind.length < text.length := by
  unfold announcedInteger? at found
  split at found
  · next letter rest =>
      simp only [bind, Option.bind_eq_some_iff, Prod.exists] at found
      obtain ⟨_, isDigit, _, found⟩ := found
      have bound := length_groupedDigits_le isDigit rest
      split at found
      · simp at found
      · simp only [Option.some.injEq, Prod.mk.injEq] at found
        rw [← found.2]
        simp only [List.length_cons]
        omega
  · simp at found

/-- What stands behind a number to base ten is shorter than the text. -/
theorem length_lt_of_leadingDecimal? {text behind : List Char} {value : Value}
    (found : leadingDecimal? text = some (.ok (value, behind))) :
    behind.length < text.length := by
  have sign := length_leadingSign_le text
  have whole := length_leadingWhole_le (leadingSign text).2
  have fraction := length_leadingFraction_le
    (leadingWhole (leadingSign text).2).2
  have exponent := length_leadingExponent_le
    (leadingFraction (leadingWhole (leadingSign text).2).2).2
  unfold leadingDecimal? at found
  dsimp only at found
  split at found
  · simp at found
  · next nonempty =>
      have positive : 0 < (leadingWhole (leadingSign text).2).1.length := by
        rw [List.length_pos_iff]
        simpa using nonempty
      repeat' split at found
      all_goals simp only [Option.some.injEq, Except.ok.injEq, Prod.mk.injEq,
        reduceCtorEq] at found
      all_goals
        rw [← found.2]
        omega

/-- What stands behind a word is shorter than the text. -/
theorem length_lt_of_leadingWord? {text behind : List Char} {value : Value}
    (found : leadingWord? text = some (value, behind)) :
    behind.length < text.length := by
  unfold leadingWord? at found
  rw [Option.map_eq_some_iff] at found
  obtain ⟨⟨letters, x⟩, member, equal⟩ := found
  have listed := List.mem_of_find?_eq_some member
  have front := List.find?_some member
  simp only [List.isPrefixOf_iff_prefix] at front
  have bound := front.length_le
  have positive : 0 < letters.length := by
    simp only [words, List.mem_cons, Prod.mk.injEq,
      List.not_mem_nil, or_false] at listed
    rcases listed with h | h | h | h | h | h <;> rw [h.1] <;> decide
  simp only [Prod.mk.injEq] at equal
  rw [← equal.2, List.length_drop]
  omega

/-- What stands behind a number is shorter than the text. -/
theorem length_lt_of_leadingNumber? {text behind : List Char} {value : Value}
    (found : leadingNumber? text = some (.ok (value, behind))) :
    behind.length < text.length := by
  unfold leadingNumber? at found
  simp only [Option.orElse_eq_orElse, Option.orElse_eq_or,
    Option.or_eq_some_iff, Option.map_eq_some_iff, Except.ok.injEq] at found
  rcases found with ⟨result, announced, rfl⟩ |
    ⟨_, decimal | ⟨_, _, word, rfl⟩⟩
  · exact length_lt_of_announcedInteger? announced
  · exact length_lt_of_leadingDecimal? decimal
  · exact length_lt_of_leadingWord? word

end Toml
end PathRouter
