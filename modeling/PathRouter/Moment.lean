/-!
# Moments in time

A moment is a day, a time of day, or both.  A day with a time may tell how far
its clock is ahead of universal time; then it is the same moment as another one
that tells it with another clock.

## Main definitions

* `Day`, `TimeOfDay` and `Moment`: the moments.
* `Moment.isSame`: whether two moments are equal.
* `Moment.text` and `Moment.render`: a moment in running text, and as messages
  show it.
-/

namespace PathRouter

/-- A year, a month and a day. -/
structure Day where
  /-- The year, counted from one. -/
  year : Nat
  /-- The month of the year. -/
  month : Nat
  /-- The day of the month. -/
  day : Nat
deriving DecidableEq, Repr

/-- A time of day. -/
structure TimeOfDay where
  /-- The hour. -/
  hour : Nat
  /-- The minute of the hour. -/
  minute : Nat
  /-- The second of the minute. -/
  second : Nat
  /-- The microsecond of the second. -/
  microsecond : Nat
deriving DecidableEq, Repr

/-- A moment in time. -/
inductive Moment where
  /-- A day. -/
  | date (day : Day)
  /-- A time of day. -/
  | time (time : TimeOfDay)
  /-- A day and a time of day, and perhaps the minutes by which the clock is
  ahead of universal time. -/
  | dateTime (day : Day) (time : TimeOfDay) (offset? : Option Int)
deriving DecidableEq, Repr

/-- A number with at least so many digits. -/
def paddedNumeral (width n : Nat) : String :=
  let digits := (toString n).toList
  String.ofList (List.replicate (width - digits.length) '0' ++ digits)

namespace Day

/-- Whether a year has a leap day. -/
def isLeapYear (year : Nat) : Bool :=
  year % 4 == 0 && (year % 100 != 0 || year % 400 == 0)

/-- The number of days of a month. -/
def daysIn (year month : Nat) : Nat :=
  if month = 2 then if isLeapYear year then 29 else 28
  else if month = 4 ∨ month = 6 ∨ month = 9 ∨ month = 11 then 30
  else 31

/-- Whether there is such a day; years are counted from one. -/
def occurs (d : Day) : Bool :=
  1 ≤ d.year && d.day ≤ daysIn d.year d.month

/-- The place of a day in the row of all days. -/
def ordinal (d : Day) : Nat :=
  let past := d.year - 1
  let inYear := (List.range (d.month - 1)).foldl
    (fun days month => days + daysIn d.year (month + 1)) d.day
  past * 365 + past / 4 - past / 100 + past / 400 + inYear

/-- A day in running text. -/
def text (d : Day) : String :=
  paddedNumeral 4 d.year ++ "-" ++ paddedNumeral 2 d.month ++ "-" ++
    paddedNumeral 2 d.day

/-- The numbers of a day. -/
def parts (d : Day) : List Nat := [d.year, d.month, d.day]

end Day

namespace TimeOfDay

/-- The microseconds of a day before a time. -/
def microseconds (t : TimeOfDay) : Nat :=
  ((t.hour * 60 + t.minute) * 60 + t.second) * 1000000 + t.microsecond

/-- A time in running text; a fraction of a second is told if there is one. -/
def text (t : TimeOfDay) : String :=
  let fraction :=
    if t.microsecond = 0 then "" else "." ++ paddedNumeral 6 t.microsecond
  paddedNumeral 2 t.hour ++ ":" ++ paddedNumeral 2 t.minute ++ ":" ++
    paddedNumeral 2 t.second ++ fraction

/-- The numbers of a time; zeros at the end stand for nothing. -/
def parts (t : TimeOfDay) : List Nat :=
  [t.hour, t.minute] ++
    if t.microsecond = 0 then
      if t.second = 0 then [] else [t.second]
    else [t.second, t.microsecond]

end TimeOfDay

namespace Moment

/-- The name of the kind of a moment. -/
def kind : Moment → String
  | date _ => "date"
  | time _ => "time"
  | dateTime .. => "datetime"

/-- The microseconds before a moment by universal time. -/
def instant (day : Day) (time : TimeOfDay) (offset : Int) : Int :=
  day.ordinal * 86400000000 + time.microseconds - offset * 60000000

/-- Whether two moments are equal. -/
def isSame : Moment → Moment → Bool
  | date a, date b => a == b
  | time s, time t => s == t
  | dateTime a s none, dateTime b t none => a == b && s == t
  | dateTime a s (some i), dateTime b t (some j) =>
      instant a s i == instant b t j
  | _, _ => false

/-- Why two days with times, or a day and a day with a time, have no order, if
they have none. -/
def disorder? : Moment → Moment → Option String
  | dateTime _ _ (some _), dateTime _ _ none
  | dateTime _ _ none, dateTime _ _ (some _) =>
      some "can't compare offset-naive and offset-aware datetimes"
  | date _, dateTime .. | dateTime .., date _ =>
      some "can't compare datetime.datetime to datetime.date"
  | _, _ => none

/-- How far a clock is ahead, in running text. -/
def offsetText (offset : Int) : String :=
  let size := offset.natAbs
  (if offset < 0 then "-" else "+") ++ paddedNumeral 2 (size / 60) ++ ":" ++
    paddedNumeral 2 (size % 60)

/-- A moment in running text. -/
def text : Moment → String
  | date d => d.text
  | time t => t.text
  | dateTime d t offset? =>
      d.text ++ " " ++ t.text ++ (offset?.map offsetText).getD ""

/-- How far a clock is ahead, as messages show it. -/
def renderOffset (offset : Int) : String :=
  let seconds := offset * 60
  if offset = 0 then "datetime.timezone.utc"
  else
    "datetime.timezone(datetime.timedelta(" ++
      (if offset < 0 then "days=-1, " else "") ++ "seconds=" ++
      toString (seconds % 86400) ++ "))"

/-- A moment as messages show it. -/
def render (moment : Moment) : String :=
  let arguments :=
    match moment with
    | date d => d.parts.map toString
    | time t => t.parts.map toString
    | dateTime d t offset? =>
        (d.parts ++ t.parts).map toString ++
          offset?.toList.map fun offset => "tzinfo=" ++ renderOffset offset
  "datetime." ++ moment.kind ++ "(" ++ ", ".intercalate arguments ++ ")"

end Moment
end PathRouter
