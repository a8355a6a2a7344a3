/-!
# Sets of code points

A set of code points is given by its boundaries in ascending order: the first
code point that belongs to the set, the first one after it that does not, and
so on in turn.  A code point belongs to the set exactly when an odd number of
boundaries lie at or below it, which a binary search counts.

Case maps use the same search on runs of code points that move by one amount.
-/

namespace PathRouter

/-- A code point.  Texts hold scalar values only; patterns over texts may also
name the code points between them. -/
abbrev CodePoint := Nat

namespace Text

/-- The number of leading entries at most `c`, looked for between `low` and
`high`, in a table whose entry at place `i` is `entry i`. -/
def countAtMost (entry : Nat → Nat) (c : CodePoint) (low high : Nat) : Nat :=
  if low < high then
    let middle := (low + high) / 2
    if entry middle ≤ c then countAtMost entry c (middle + 1) high
    else countAtMost entry c low middle
  else low
termination_by high - low

/-- A set of code points, given by its ascending boundaries. -/
structure CodePointSet where
  /-- The boundaries: the set is entered at the first, left at the second,
  entered again at the third, and so on. -/
  bounds : Array CodePoint

/-- A code point is in the set when an odd number of boundaries precede it. -/
def CodePointSet.contains (s : CodePointSet) (c : CodePoint) : Bool :=
  countAtMost (fun i => s.bounds.getD i 0) c 0 s.bounds.size % 2 == 1

/-- A run of code points at one distance from each other, all of which a case
map moves by the same amount. -/
structure CaseRun where
  /-- The first code point of the run. -/
  first : CodePoint
  /-- The distance between neighbours in the run. -/
  step : Nat
  /-- The number of code points in the run. -/
  count : Nat
  /-- The amount by which each is moved. -/
  shift : Int

namespace CaseRun

/-- The code point to which the run moves `c`, if `c` is in the run. -/
def image? (run : CaseRun) (c : CodePoint) : Option CodePoint :=
  let distance := c - run.first
  if run.first ≤ c ∧ distance % run.step = 0 ∧ distance / run.step < run.count
  then some (c + run.shift).toNat
  else none

/-- The image of `c` under a table of runs with ascending starts: the last run
that starts at or below `c` decides, and a code point in no run stays. -/
def mapOf (runs : Array CaseRun) (c : CodePoint) : CodePoint :=
  match countAtMost (fun i => (runs[i]?.map CaseRun.first).getD 0) c
      0 runs.size with
  | 0 => c
  | i + 1 => ((runs[i]?).bind (image? · c)).getD c

end CaseRun

end Text
end PathRouter
