import PathRouter.Text.Alphanumeric
import PathRouter.Text.Case

/-!
# Tests of one character

An expression reads its text one character at a time through tests: any
character, one given character, or a character set.  A test may disregard case,
in one of two ways: for the twenty-six letters only, or for all scripts.  A set
is then asked about the lower case of the character, and holds it when the
lower case of a member, or another spelling of it, agrees.

Sets list their members: single code points, ranges, and categories.  Beyond
the sixteen-bit code points a set that disregards case takes its single members
as they stand, and looks ranges up in both cases.
-/

namespace PathRouter

open Text

/-- How letters of different case compare. -/
inductive Folding where
  /-- Case matters. -/
  | exact
  /-- The twenty-six letters compare by their lower case. -/
  | ascii
  /-- Letters of all scripts compare by their lower case. -/
  | full
deriving DecidableEq, Repr

namespace Folding

/-- The representative by which a code point is compared. -/
def apply : Folding → CodePoint → CodePoint
  | exact, c => c
  | ascii, c => asciiLower c
  | full, c => lower c

/-- The code points that count as the folded code point `c`: itself and, for
letters of all scripts, its other spellings. -/
def spellings : Folding → CodePoint → List CodePoint
  | full, c => c :: otherSpellingsOf c
  | _, c => [c]

/-- The code points that fold to `c`. -/
def preimages : Folding → CodePoint → List CodePoint
  | exact, c => [c]
  | ascii, c =>
      if 0x61 ≤ c ∧ c ≤ 0x7a then [c, c - 0x20]
      else if asciiLower c = c then [c] else []
  | full, c =>
      let moved := lowerRuns.toList.filterMap fun run =>
        let d := ((c : Int) - run.shift).toNat
        if run.image? d = some c then some d else none
      let ascii := if 0x61 ≤ c ∧ c ≤ 0x7a then [c - 0x20] else []
      (if lower c = c then [c] else []) ++ ascii ++ moved

end Folding

/-- The properties of characters that have a letter of their own. -/
inductive CharProperty where
  /-- A decimal digit. -/
  | digit
  /-- A blank. -/
  | blank
  /-- A letter, a numeral or the low line. -/
  | word
deriving DecidableEq, Repr

/-- Whether a code point has the property, among the first 128 code points only
if `ascii` is set. -/
def CharProperty.holds : CharProperty → (ascii : Bool) → CodePoint → Bool
  | digit, true, c => isAsciiDigit c
  | digit, false, c => isDecimalDigit c
  | blank, true, c => isAsciiBlank c
  | blank, false, c => isBlank c
  | word, true, c => isAsciiWord c
  | word, false, c => isWord c

/-- A member of a character set. -/
inductive SetMember where
  /-- One code point. -/
  | code (c : CodePoint)
  /-- All code points from `first` to `last`. -/
  | range (first last : CodePoint)
  /-- The code points that have a property, or those that lack it. -/
  | category (property : CharProperty) (negated : Bool)
deriving DecidableEq, Repr

namespace SetMember

/-- The last code point that sixteen bits can hold. -/
def lastNarrow : CodePoint := 0xffff

/-- Whether the folded code point `c` counts as a member. -/
def holds (folding : Folding) (ascii : Bool) (c : CodePoint) :
    SetMember → Bool
  | code k =>
      let folded := folding.apply k
      if folded ≤ lastNarrow then (folding.spellings folded).contains c
      else c == k
  | range first last =>
      match folding with
      | .exact => first ≤ c && c ≤ last
      | _ =>
          let candidates :=
            (folding.spellings c).flatMap folding.preimages
          candidates.any (fun d =>
              first ≤ d && d ≤ min last lastNarrow) ||
            (lastNarrow < last &&
              (first ≤ c && c ≤ last || first ≤ upper c && upper c ≤ last))
  | category property negated => property.holds ascii c != negated

end SetMember

/-- A test of one character. -/
inductive CharTest where
  /-- Any character, the line feed only if `lineFeed` is set. -/
  | any (lineFeed : Bool)
  /-- The given character, or any other one if `negated` is set. -/
  | literal (folding : Folding) (negated : Bool) (c : CodePoint)
  /-- The members of a set, or all others if `negated` is set. -/
  | set (folding : Folding) (ascii negated : Bool) (members : List SetMember)
deriving DecidableEq, Repr

namespace CharTest

/-- Whether a character passes the test. -/
def holds : CharTest → CodePoint → Bool
  | any lineFeed, c => lineFeed || c != 0x0a
  | literal folding negated k, c =>
      (folding.spellings (folding.apply k)).contains (folding.apply c)
        != negated
  | set folding ascii negated members, c =>
      members.any (·.holds folding ascii (folding.apply c)) != negated

/-- A test for one code point, case mattering. -/
abbrev exactly (c : CodePoint) : CharTest := literal .exact false c

@[simp] theorem holds_exactly (k c : CodePoint) :
    (exactly k).holds c = (c == k) := by
  simp [holds, Folding.spellings, Folding.apply, Bool.beq_eq_decide_eq]

end CharTest
end PathRouter
