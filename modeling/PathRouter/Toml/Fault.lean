import PathRouter.Limit
import PathRouter.Result
import PathRouter.Text.Quoted

/-!
# Why a settings document cannot be read

Each way in which a document of settings can be malformed is a cause of its own.
It is reported with the line and the column where it goes wrong, unless that is
the end of the document.
-/

namespace PathRouter
namespace Toml

/-- A dotted key: its parts from the outside. -/
abbrev Key := List String

/-- A key as messages show it. -/
def renderKey : Key → String
  | [part] => "(" ++ Text.quoted part ++ ",)"
  | parts => "(" ++ ", ".intercalate (parts.map Text.quoted) ++ ")"

/-- A way in which a document is malformed. -/
inductive Cause where
  /-- No statement starts with the character. -/
  | badStatement
  /-- A line goes on behind its statement. -/
  | unfinishedLine
  /-- A table is declared again. -/
  | declaredTwice (key : Key)
  /-- A value is written again, or lies where a table ought to be. -/
  | overwritten
  /-- The bracket behind the name of a table is missing. -/
  | unclosedTableName
  /-- The brackets behind the name of a list of tables are missing. -/
  | unclosedListName
  /-- A table or list that was written as a value is changed. -/
  | immutable (key : Key)
  /-- A table that was declared is changed from the outside. -/
  | redefined (key : Key)
  /-- The equals sign behind a key is missing. -/
  | missingEquals
  /-- No key starts with the character. -/
  | badKeyStart
  /-- A list is not closed. -/
  | unclosedList
  /-- A table that is written as a value is not closed. -/
  | unclosedTable
  /-- A key occurs twice in a table that is written as a value. -/
  | duplicateKey (name : String)
  /-- A backslash escapes nothing. -/
  | badEscape
  /-- The code of an escape has too few digits. -/
  | badCode
  /-- No character has the code of an escape. -/
  | noCharacter
  /-- A text is not closed. -/
  | unterminatedText
  /-- A control character stands in a text. -/
  | illegalInText (c : Char)
  /-- The mark that closes a plain text is missing. -/
  | missingMark (mark : List Char)
  /-- A control character stands in a plain text or in a comment. -/
  | illegalCharacter (c : Char)
  /-- There is no such day. -/
  | badMoment
  /-- A value is missing. -/
  | badValue
deriving DecidableEq, Repr

/-- The wording of each cause. -/
def Cause.message : Cause → String
  | badStatement => "Invalid statement"
  | unfinishedLine =>
      "Expected newline or end of document after a statement"
  | declaredTwice key => "Cannot declare " ++ renderKey key ++ " twice"
  | overwritten => "Cannot overwrite a value"
  | unclosedTableName => "Expected ']' at the end of a table declaration"
  | unclosedListName => "Expected ']]' at the end of an array declaration"
  | immutable key => "Cannot mutate immutable namespace " ++ renderKey key
  | redefined key => "Cannot redefine namespace " ++ renderKey key
  | missingEquals => "Expected '=' after a key in a key/value pair"
  | badKeyStart => "Invalid initial character for a key part"
  | unclosedList => "Unclosed array"
  | unclosedTable => "Unclosed inline table"
  | duplicateKey name => "Duplicate inline table key " ++ Text.quoted name
  | badEscape => "Unescaped '\\' in a string"
  | badCode => "Invalid hex value"
  | noCharacter => "Escaped character is not a Unicode scalar value"
  | unterminatedText => "Unterminated string"
  | illegalInText c =>
      "Illegal character " ++ Text.quoted (String.ofList [c])
  | missingMark mark => "Expected " ++ Text.quoted (String.ofList mark)
  | illegalCharacter c =>
      "Found invalid character " ++ Text.quoted (String.ofList [c])
  | badMoment => "Invalid date or datetime"
  | badValue => "Invalid value"

/-- Why a document cannot be read. -/
inductive Fault where
  /-- The document is malformed where `left` characters of it are left. -/
  | malformed (cause : Cause) (left : Nat)
  /-- The document exceeds a limit. -/
  | limit (exceeded : Limit)
deriving DecidableEq, Repr

/-- The wording of a fault in a document. -/
def Fault.message (document : List Char) : Fault → String
  | malformed cause 0 => cause.message ++ " (at end of document)"
  | malformed cause left =>
      let (line, column) :=
        Text.lineAndColumn document (document.length - left)
      cause.message ++ " (at line " ++ toString line ++ ", column " ++
        toString column ++ ")"
  | limit exceeded => exceeded.message

/-- Refuses a document at the start of what is left of it. -/
def refuse (cause : Cause) (left : List Char) : Except Fault α :=
  .error (.malformed cause left.length)

end Toml
end PathRouter
