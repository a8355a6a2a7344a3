import PathRouter.Text.Quoted

/-!
# Limits

Some inputs are refused although nothing is wrong with their form: a number is
too large to be handled, or a name cannot be that of anything.  No part of the
library treats these refusals as faults of a configuration.
-/

namespace PathRouter

/-- A limit that an input exceeds. -/
inductive Limit where
  /-- A repetition count in an expression is too large. -/
  | repetitionCount
  /-- A code point is too large even to be compared with the last one. -/
  | codePoint
  /-- A numeral has more digits than numerals may have. -/
  | numeralDigits (digits : Nat)
  /-- Two flags for a whole expression choose different character rules. -/
  | characterRules
  /-- The name of a file holds the null character. -/
  | nullCharacter
  /-- The name of a file is too long for the system. -/
  | longFileName (path : String)
  /-- The name of a module is empty. -/
  | emptyModuleName
  /-- There is no text to be matched. -/
  | missingText
  /-- Keys that are to be listed are no texts; the kind is that of the least
  one. -/
  | keyKind (kind : String)
  /-- Keys that are to be listed have no order. -/
  | keyOrder (reason : String)
deriving DecidableEq, Repr

namespace Limit

/-- The number of digits that a numeral may have. -/
def maxNumeralDigits : Nat := 4300

/-- Whether the limit is one of size. -/
def isOverflow : Limit → Bool
  | repetitionCount | codePoint => true
  | _ => false

/-- The wording of each limit. -/
def message : Limit → String
  | repetitionCount => "the repetition number is too large"
  | codePoint => "Python int too large to convert to C int"
  | numeralDigits digits =>
      "Exceeds the limit (" ++ toString maxNumeralDigits ++
        " digits) for integer string conversion: value has " ++
        toString digits ++
        " digits; use sys.set_int_max_str_digits() to increase the limit"
  | characterRules => "ASCII and UNICODE flags are incompatible"
  | nullCharacter => "embedded null byte"
  | longFileName path =>
      "[Errno 36] File name too long: " ++ Text.quoted path
  | emptyModuleName => "Empty module name"
  | missingText => "expected string or bytes-like object, got 'list'"
  | keyKind kind =>
      "sequence item 0: expected str instance, " ++ kind ++ " found"
  | keyOrder reason => reason

end Limit
end PathRouter
