import PathRouter.Json.Token
import PathRouter.Value

/-!
# Reading documents

A document is read token by token.  What is still open, from the inside, is
kept on a stack, together with what has to come next; a value that is complete
joins the innermost open list or mapping.  A repeated name of a mapping keeps
its first place and takes its last value.

## Main definitions

* `ReaderState.step`: reading one token.
* `parse`: the value that a document stands for.
-/

namespace PathRouter
namespace Json

/-- Something that is open. -/
inductive Frame where
  /-- A list with its members so far, the last one first. -/
  | list (members : List Value)
  /-- A mapping with its entries so far, the last one first. -/
  | map (entries : List (String × Value))
  /-- An entry of a mapping, whose value is still to come. -/
  | entry (name : String)

/-- What has to come next. -/
inductive Due where
  /-- A value. -/
  | value
  /-- A value, or the end of a list. -/
  | firstMember
  /-- A name, or the end of a mapping. -/
  | firstName
  /-- A name. -/
  | name
  /-- The colon behind a name. -/
  | colon
  /-- A comma, or the end of a list or mapping. -/
  | separator
deriving DecidableEq, Repr

/-- What is wrong when it does not come. -/
def Due.cause : Due → Cause
  | value | firstMember => .missingValue
  | firstName | name => .missingName
  | colon => .missingColon
  | separator => .missingComma

/-- How far a document has been read. -/
inductive ReaderState where
  /-- Something has to come. -/
  | reading (due : Due) (frames : List Frame)
  /-- The value of the document is complete. -/
  | complete (value : Value)

namespace ReaderState

/-- Before the first token. -/
def start : ReaderState := reading .value []

/-- A value is complete inside of some frames. -/
def deliver (value : Value) : List Frame → ReaderState
  | .list members :: frames =>
      reading .separator (.list (value :: members) :: frames)
  | .entry name :: .map entries :: frames =>
      reading .separator (.map ((name, value) :: entries) :: frames)
  | _ => complete value

/-- Reads a token where a value is due. -/
def stepValue (frames : List Frame) (lexeme : Lexeme) :
    Except Fault ReaderState :=
  match lexeme.token with
  | .openMap => .ok (reading .firstName (.map [] :: frames))
  | .openList => .ok (reading .firstMember (.list [] :: frames))
  | .text content => .ok (deliver (.text content) frames)
  | .scalar content => .ok (deliver (.scalar content) frames)
  | .badText fault => .error fault
  | .hugeNumeral digits => .error (.limit (.numeralDigits digits))
  | _ => .error (.malformed .missingValue lexeme.left)

/-- Reads a token where a name is due. -/
def stepName (frames : List Frame) (lexeme : Lexeme) :
    Except Fault ReaderState :=
  match lexeme.token with
  | .text content => .ok (reading .colon (.entry content :: frames))
  | .badText fault => .error fault
  | _ => .error (.malformed .missingName lexeme.left)

/-- Reads a token. -/
def step (state : ReaderState) (lexeme : Lexeme) :
    Except Fault ReaderState :=
  match state with
  | complete _ => .error (.malformed .extraData lexeme.left)
  | reading due frames =>
      match due, lexeme.token, frames with
      | .firstMember, .closeList, .list members :: outer =>
          .ok (deliver (.list members.reverse) outer)
      | .firstName, .closeMap, .map entries :: outer =>
          .ok (deliver (.ofTable (.ofList entries.reverse)) outer)
      | .separator, .closeList, .list members :: outer =>
          .ok (deliver (.list members.reverse) outer)
      | .separator, .closeMap, .map entries :: outer =>
          .ok (deliver (.ofTable (.ofList entries.reverse)) outer)
      | .separator, .comma, .list _ :: _ => .ok (reading .value frames)
      | .separator, .comma, _ => .ok (reading .name frames)
      | .colon, .colon, _ => .ok (reading .value frames)
      | .firstMember, _, _ => stepValue frames lexeme
      | .value, _, _ => stepValue frames lexeme
      | .firstName, _, _ => stepName frames lexeme
      | .name, _, _ => stepName frames lexeme
      | _, _, _ => .error (.malformed due.cause lexeme.left)

/-- The value of a document that ends here. -/
def finish : ReaderState → Except Fault Value
  | complete value => .ok value
  | reading due _ => .error (.malformed due.cause 0)

end ReaderState

/-- The value that a document stands for. -/
def parse (document : List Char) : Except Fault Value := do
  let state ← (scan document).foldlM ReaderState.step .start
  state.finish

end Json
end PathRouter
