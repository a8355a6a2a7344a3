/-!
# Symbols

The text of an expression is a row of symbols: a backslash and the character
behind it form one symbol, every other character is a symbol by itself, and a
backslash at the very end is left dangling.  A literal text stands there with a
backslash before each character that has, or might have, a meaning.
-/

namespace PathRouter
namespace Regex

/-- A unit of the text of an expression. -/
inductive Symbol where
  /-- A character other than the backslash. -/
  | plain (c : Char)
  /-- A backslash and the character behind it. -/
  | escaped (c : Char)
  /-- A backslash that ends the text. -/
  | dangling
deriving DecidableEq, Repr

namespace Symbol

/-- The symbols of a text. -/
def ofChars : List Char → List Symbol
  | [] => []
  | ['\\'] => [dangling]
  | '\\' :: c :: rest => escaped c :: ofChars rest
  | c :: rest => plain c :: ofChars rest

/-- The characters of a symbol. -/
def chars : Symbol → List Char
  | plain c => [c]
  | escaped c => ['\\', c]
  | dangling => ['\\']

/-- The number of characters of a symbol. -/
def width (s : Symbol) : Nat := s.chars.length

end Symbol

/-- The characters that stand behind a backslash in a literal text. -/
def specialChars : List Char :=
  ['(', ')', '[', ']', '\x7b', '\x7d', '?', '*', '+', '-', '|', '^', '$',
    '\\', '.', '&', '~', '#', ' ', '\t', '\n', '\r', '\x0b', '\x0c']

/-- A character of a literal text as a symbol. -/
def literalSymbol (c : Char) : Symbol :=
  if specialChars.contains c then .escaped c else .plain c

/-- The text that stands for a literal text in an expression. -/
def literalChars (text : List Char) : List Char :=
  text.flatMap fun c => (literalSymbol c).chars

end Regex
end PathRouter
