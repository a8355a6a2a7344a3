import PathRouter.Pattern.Basic

/-!
# Pieces of patterns

The text of a pattern falls into pieces: brackets, token references and single
characters.  A colon followed by a name is a reference, and the name is read to
its end.  An equals sign right behind the name gives a default, which reaches up
to the next slash, bracket or colon.  A colon without a name is a character like
any other.
-/

namespace PathRouter

/-- A letter or the low line: what a name may start with.  Only the twenty-six
letters count. -/
def isNameStart (c : Char) : Bool := c.isAlpha || c == '_'

/-- A letter, a digit or the low line: what a name may go on with. -/
def isNameChar (c : Char) : Bool := c.isAlphanum || c == '_'

/-- The characters that a default may hold. -/
def isDefaultChar (c : Char) : Bool :=
  c != '/' && c != '(' && c != ')' && c != ':'

/-- A piece of the text of a pattern. -/
inductive Piece where
  /-- A character. -/
  | char (c : Char)
  /-- A token reference. -/
  | token (token : TokenRef)
  /-- An opening bracket. -/
  | opening
  /-- A closing bracket. -/
  | closing
deriving DecidableEq, Repr

namespace Piece

/-- The name at the front of a text, empty if there is none. -/
def leadingName : List Char → List Char
  | [] => []
  | c :: text => if isNameStart c then c :: text.takeWhile isNameChar else []

/-- The default at the front of a text, if there is one. -/
def leadingDefault? : List Char → Option (List Char)
  | '=' :: text => some (text.takeWhile isDefaultChar)
  | _ => none

/-- The number of characters of a default and its equals sign. -/
def defaultWidth : Option (List Char) → Nat
  | none => 0
  | some text => text.length + 1

/-- The pieces of a text. -/
def ofChars : List Char → List Piece
  | [] => []
  | '(' :: rest => opening :: ofChars rest
  | ')' :: rest => closing :: ofChars rest
  | ':' :: rest =>
      let name := leadingName rest
      if name.isEmpty then char ':' :: ofChars rest
      else
        let behind := rest.drop name.length
        let default? := leadingDefault? behind
        token ⟨String.ofList name, default?.map String.ofList⟩ ::
          ofChars (behind.drop (defaultWidth default?))
  | c :: rest => char c :: ofChars rest
termination_by text => text.length
decreasing_by
  all_goals
    simp only [List.length_cons, List.length_drop]
    omega

/-- The characters of a piece. -/
def chars : Piece → List Char
  | char c => [c]
  | token ref =>
      ':' :: (ref.name.toList ++
        (ref.default?.map fun text => '=' :: text.toList).getD [])
  | opening => ['(']
  | closing => [')']

/-- The number of characters of a piece. -/
def width (piece : Piece) : Nat := piece.chars.length

end Piece
end PathRouter
