import PathRouter.Decimal.Shortest
import PathRouter.Text.Hexadecimal
import PathRouter.Text.Units
import PathRouter.Value

/-!
# Writing documents

Documents are written with one member to a line, and members are indented by
two blanks for each list or mapping around them.  All characters beyond the
printable ones of the first 128 are escaped, so that a document has the same
bytes in most encodings.
-/

namespace PathRouter
namespace Json

/-- A unit as an escape. -/
def escapedUnit (unit : Nat) : List Char :=
  '\\' :: 'u' :: Text.fixedHex 4 unit

/-- A character of a text. -/
def writtenChar (c : Char) : List Char :=
  if c = '"' then ['\\', '"']
  else if c = '\\' then ['\\', '\\']
  else if c = '\n' then ['\\', 'n']
  else if c = '\r' then ['\\', 'r']
  else if c = '\t' then ['\\', 't']
  else if c.toNat = 0x0c then ['\\', 'f']
  else if c.toNat = 0x08 then ['\\', 'b']
  else if ' ' ≤ c ∧ c ≤ '~' then [c]
  else (Text.unitsOf c).flatMap escapedUnit

/-- A text. -/
def writtenText (text : List Char) : List Char :=
  '"' :: (text.flatMap writtenChar ++ ['"'])

/-- The start of a line at a depth. -/
def lineStart (depth : Nat) : List Char :=
  '\n' :: List.replicate (2 * depth) ' '

/-- A binary fraction. -/
def writtenFloat (x : Float) : List Char :=
  if x.isNaN then "NaN".toList
  else if x.isInf then (if x < 0 then "-Infinity" else "Infinity").toList
  else (Decimal.render x).toList

/-- A scalar.  Documents hold no moments; nothing stands for them. -/
def writtenScalar : Scalar → List Char
  | .null | .moment _ => "null".toList
  | .bool b => (toString b).toList
  | .int n => (toString n).toList
  | .float x => writtenFloat x
  | .text s => writtenText s.toList

/-- The name of a member. -/
def writtenName : Scalar → List Char
  | .text s => writtenText s.toList
  | key => writtenText (writtenScalar key)

/-- A member of a mapping, whose value is written already. -/
def writtenMember (key : Scalar) (value : List Char) : List Char :=
  writtenName key ++ [':', ' '] ++ value

/-- The parts of a list or mapping at a depth between their brackets, each on a
line of its own. -/
def bracketed (opening closing : Char) (depth : Nat) :
    List (List Char) → List Char
  | [] => [opening, closing]
  | first :: rest =>
      opening :: (lineStart (depth + 1) ++ first ++
        (rest.flatMap fun part => ',' :: (lineStart (depth + 1) ++ part)) ++
        lineStart depth ++ [closing])

mutual

/-- A value at a depth. -/
def write (depth : Nat) : Value → List Char
  | .scalar content => writtenScalar content
  | .list members => bracketed '[' ']' depth (writeMembers (depth + 1) members)
  | .map keys values =>
      bracketed '\x7b' '\x7d' depth (List.ofFn fun place =>
        writtenMember (keys.list.get place)
          (write (depth + 1) (values place)))

/-- The members of a list at a depth. -/
def writeMembers (depth : Nat) : List Value → List (List Char)
  | [] => []
  | member :: rest => write depth member :: writeMembers depth rest

end

/-- A value as a document. -/
def render (value : Value) : String := String.ofList (write 0 value)

end Json
end PathRouter
