import PathRouter.Limit
import PathRouter.Text.Quoted

/-!
# Why a document cannot be read

Each way in which a document can be malformed is a cause of its own.  It is
reported with the place where it goes wrong: by line and column, and by the
number of characters in front of it.
-/

namespace PathRouter
namespace Json

/-- A way in which a document is malformed. -/
inductive Cause where
  /-- A value is missing. -/
  | missingValue
  /-- The name of a member is missing. -/
  | missingName
  /-- The colon behind a name is missing. -/
  | missingColon
  /-- The comma between two values is missing. -/
  | missingComma
  /-- Something stands behind the value of the document. -/
  | extraData
  /-- A text is not closed. -/
  | unterminatedText
  /-- A control character stands in a text. -/
  | controlCharacter
  /-- An escape has no meaning. -/
  | badEscape
  /-- The code of an escaped unit is no numeral of four digits. -/
  | badUnit
deriving DecidableEq, Repr

/-- The wording of each cause. -/
def Cause.message : Cause → String
  | missingValue => "Expecting value"
  | missingName => "Expecting property name enclosed in double quotes"
  | missingColon => "Expecting ':' delimiter"
  | missingComma => "Expecting ',' delimiter"
  | extraData => "Extra data"
  | unterminatedText => "Unterminated string starting at"
  | controlCharacter => "Invalid control character at"
  | badEscape => "Invalid \\escape"
  | badUnit => "Invalid \\uXXXX escape"

/-- Why a document cannot be read. -/
inductive Fault where
  /-- The document is malformed where `left` characters of it are left. -/
  | malformed (cause : Cause) (left : Nat)
  /-- The document exceeds a limit. -/
  | limit (exceeded : Limit)
deriving DecidableEq, Repr

/-- The wording of a fault in a document. -/
def Fault.message (document : List Char) : Fault → String
  | malformed cause left =>
      let position := document.length - left
      let (line, column) := Text.lineAndColumn document position
      cause.message ++ ": line " ++ toString line ++ " column " ++
        toString column ++ " (char " ++ toString position ++ ")"
  | limit exceeded => exceeded.message

end Json
end PathRouter
