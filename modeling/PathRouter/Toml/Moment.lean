import PathRouter.Decimal.Reading
import PathRouter.Toml.Blank
import PathRouter.Value

/-!
# Moments in documents

A moment is a day, a time of day, or both with a letter or a blank in between
and perhaps with an offset at the end.  Where the time does not have its form,
the day stands alone, and where the offset does not, there is none.  There has
to be such a day.
-/

namespace PathRouter
namespace Toml

/-- A numeral of a fixed number of digits at the front of a text, and what
stands behind it. -/
def fixedNumeral? (width : Nat) (text : List Char) :
    Option (Nat × List Char) :=
  let digits := text.take width
  if digits.length = width ∧ digits.all Char.isDigit then
    some (Decimal.natOfDigits digits, text.drop width)
  else none

/-- A numeral of two digits that lies between bounds, and what stands behind
it. -/
def pairBetween? (least greatest : Nat) (text : List Char) :
    Option (Nat × List Char) :=
  (fixedNumeral? 2 text).filter fun (value, _) =>
    least ≤ value && value ≤ greatest

/-- What stands behind a character at the front of a text. -/
def behindChar? (c : Char) : List Char → Option (List Char)
  | d :: rest => if d = c then some rest else none
  | [] => none

/-- The day at the front of a text, and what stands behind it. -/
def leadingDay? (text : List Char) : Option (Day × List Char) := do
  let (year, text) ← fixedNumeral? 4 text
  let text ← behindChar? '-' text
  let (month, text) ← pairBetween? 1 12 text
  let text ← behindChar? '-' text
  let (day, text) ← pairBetween? 1 31 text
  return (⟨year, month, day⟩, text)

/-- The microseconds of a fraction of a second, if there is one, and what stands
behind it.  Digits behind the sixth one do not count. -/
def leadingMicroseconds : List Char → Nat × List Char
  | '.' :: c :: rest =>
      if c.isDigit then
        let digits := c :: rest.takeWhile Char.isDigit
        (Decimal.natOfDigits ((digits ++ List.replicate 6 '0').take 6),
          rest.dropWhile Char.isDigit)
      else (0, '.' :: c :: rest)
  | text => (0, text)

/-- The time of day at the front of a text, and what stands behind it. -/
def leadingTime? (text : List Char) : Option (TimeOfDay × List Char) := do
  let (hour, text) ← pairBetween? 0 23 text
  let text ← behindChar? ':' text
  let (minute, text) ← pairBetween? 0 59 text
  let text ← behindChar? ':' text
  let (second, text) ← pairBetween? 0 59 text
  let (microsecond, text) := leadingMicroseconds text
  return (⟨hour, minute, second, microsecond⟩, text)

/-- The minutes of an offset of hours and minutes, and what stands behind
it. -/
def leadingMinutes? (text : List Char) : Option (Nat × List Char) := do
  let (hours, text) ← pairBetween? 0 23 text
  let text ← behindChar? ':' text
  let (minutes, text) ← pairBetween? 0 59 text
  return (hours * 60 + minutes, text)

/-- The offset at the front of a text, if there is one, and what stands behind
it. -/
def leadingOffset (text : List Char) : Option Int × List Char :=
  match text with
  | c :: rest =>
      if c = 'Z' ∨ c = 'z' then (some 0, rest)
      else if c = '+' ∨ c = '-' then
        match leadingMinutes? rest with
        | some (minutes, behind) =>
            (some (if c = '-' then -minutes else minutes), behind)
        | none => (none, text)
      else (none, text)
  | [] => (none, [])

/-- The time of day that follows a day, with its offset, and what stands behind
them. -/
def leadingTimeOfDay? :
    List Char → Option (TimeOfDay × Option Int × List Char)
  | c :: rest =>
      if c = 'T' ∨ c = 't' ∨ c = ' ' then
        (leadingTime? rest).map fun (time, behind) =>
          (time, leadingOffset behind)
      else none
  | [] => none

/-- The moment at the front of a text, and what stands behind it. -/
def leadingMoment? (text : List Char) :
    Option (Except Fault (Value × List Char)) :=
  match leadingDay? text with
  | some (day, behindDay) =>
      some (
        if day.occurs then
          match leadingTimeOfDay? behindDay with
          | some (time, offset?, behind) =>
              .ok (.moment (.dateTime day time offset?), behind)
          | none => .ok (.moment (.date day), behindDay)
        else refuse .badMoment text)
  | none =>
      (leadingTime? text).map fun (time, behind) =>
        .ok (.moment (.time time), behind)

/-! ## What is left -/

/-- What stands behind a numeral is no longer than the text. -/
theorem length_le_of_fixedNumeral? {width value : Nat}
    {text behind : List Char}
    (found : fixedNumeral? width text = some (value, behind)) :
    behind.length ≤ text.length := by
  unfold fixedNumeral? at found
  dsimp only at found
  split at found
  · simp only [Option.some.injEq, Prod.mk.injEq] at found
    rw [← found.2, List.length_drop]
    omega
  · simp at found

/-- What stands behind a numeral is no longer than the text. -/
theorem length_le_of_pairBetween? {least greatest value : Nat}
    {text behind : List Char}
    (found : pairBetween? least greatest text = some (value, behind)) :
    behind.length ≤ text.length :=
  length_le_of_fixedNumeral? (Option.filter_eq_some_iff.mp found).1

/-- What stands behind a character is shorter than the text. -/
theorem length_lt_of_behindChar? {c : Char} {text behind : List Char}
    (found : behindChar? c text = some behind) :
    behind.length < text.length := by
  unfold behindChar? at found
  split at found
  · split at found
    · simp only [Option.some.injEq] at found
      simp [found]
    · simp at found
  · simp at found

/-- What stands behind a fraction is no longer than the text. -/
theorem length_leadingMicroseconds_le (text : List Char) :
    (leadingMicroseconds text).2.length ≤ text.length := by
  unfold leadingMicroseconds
  split
  · next c rest =>
      have bound := length_dropWhile_le Char.isDigit rest
      split <;> simp only [List.length_cons] <;> omega
  · exact Nat.le_refl _

/-- What stands behind a time of day is shorter than the text. -/
theorem length_lt_of_leadingTime? {text behind : List Char} {time : TimeOfDay}
    (found : leadingTime? text = some (time, behind)) :
    behind.length < text.length := by
  simp only [leadingTime?, bind, Option.bind_eq_some_iff, Prod.exists, pure,
    Option.some.injEq, Prod.mk.injEq] at found
  obtain ⟨_, _, hour, _, first, _, _, minute, _, second, _, last, seconds, _,
    equal⟩ := found
  have one := length_le_of_pairBetween? hour
  have two := length_lt_of_behindChar? first
  have three := length_le_of_pairBetween? minute
  have four := length_lt_of_behindChar? second
  have five := length_le_of_pairBetween? seconds
  have six := length_leadingMicroseconds_le last
  rw [equal] at six
  omega

/-- What stands behind an offset is no longer than the text. -/
theorem length_le_of_leadingMinutes? {text behind : List Char} {minutes : Nat}
    (found : leadingMinutes? text = some (minutes, behind)) :
    behind.length ≤ text.length := by
  simp only [leadingMinutes?, bind, Option.bind_eq_some_iff, Prod.exists, pure,
    Option.some.injEq, Prod.mk.injEq] at found
  obtain ⟨_, _, hour, _, colon, _, last, minute, _, equal⟩ := found
  have one := length_le_of_pairBetween? hour
  have two := length_lt_of_behindChar? colon
  have three := length_le_of_pairBetween? minute
  rw [equal] at three
  omega

/-- What stands behind an offset is no longer than the text. -/
theorem length_leadingOffset_le (text : List Char) :
    (leadingOffset text).2.length ≤ text.length := by
  unfold leadingOffset
  split
  · next c rest =>
      split
      · simp
      · split
        · cases found : leadingMinutes? rest with
          | none => simp
          | some result =>
              have bound := length_le_of_leadingMinutes? found
              simp only [List.length_cons]
              omega
        · exact Nat.le_refl _
  · exact Nat.le_refl _

/-- What stands behind a day is shorter than the text. -/
theorem length_lt_of_leadingDay? {text behind : List Char} {day : Day}
    (found : leadingDay? text = some (day, behind)) :
    behind.length < text.length := by
  simp only [leadingDay?, bind, Option.bind_eq_some_iff, Prod.exists, pure,
    Option.some.injEq, Prod.mk.injEq] at found
  obtain ⟨_, _, year, _, first, _, _, month, _, second, _, last, days, _,
    equal⟩ := found
  have one := length_le_of_fixedNumeral? year
  have two := length_lt_of_behindChar? first
  have three := length_le_of_pairBetween? month
  have four := length_lt_of_behindChar? second
  have five := length_le_of_pairBetween? days
  rw [equal] at five
  omega

/-- What stands behind a time that follows a day is shorter than the text. -/
theorem length_lt_of_leadingTimeOfDay? {text behind : List Char}
    {time : TimeOfDay} {offset? : Option Int}
    (found : leadingTimeOfDay? text = some (time, offset?, behind)) :
    behind.length < text.length := by
  unfold leadingTimeOfDay? at found
  split at found
  · split at found
    · rw [Option.map_eq_some_iff] at found
      obtain ⟨⟨_, middle⟩, time, equal⟩ := found
      have one := length_lt_of_leadingTime? time
      have two := length_leadingOffset_le middle
      rw [(Prod.mk.inj equal).2] at two
      dsimp only at two
      simp only [List.length_cons]
      omega
    · simp at found
  · simp at found

/-- What stands behind a moment is shorter than the text. -/
theorem length_lt_of_leadingMoment? {text behind : List Char} {value : Value}
    (found : leadingMoment? text = some (.ok (value, behind))) :
    behind.length < text.length := by
  unfold leadingMoment? at found
  split at found
  · next day =>
      have bound := length_lt_of_leadingDay? day
      simp only [Option.some.injEq] at found
      split at found
      · split at found
        · next time =>
            have later := length_lt_of_leadingTimeOfDay? time
            simp only [Except.ok.injEq, Prod.mk.injEq] at found
            rw [← found.2]
            omega
        · simp only [Except.ok.injEq, Prod.mk.injEq] at found
          exact found.2 ▸ bound
      · simp [refuse] at found
  · simp only [Option.map_eq_some_iff, Except.ok.injEq, Prod.mk.injEq] at found
    obtain ⟨_, time, _, equal⟩ := found
    exact equal ▸ length_lt_of_leadingTime? time

end Toml
end PathRouter
