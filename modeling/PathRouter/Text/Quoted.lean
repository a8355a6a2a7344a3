import PathRouter.Text.Hexadecimal
import PathRouter.Text.Printable

/-!
# Texts in messages

Messages show a text between quotation marks.  The mark is the apostrophe,
unless the text holds an apostrophe and no double quote.  Inside, the mark and
the backslash stand behind a backslash, line feed, carriage return and tab have
their letters, and every other code point that is not printable is written as a
hexadecimal escape of two, four or eight digits, the shortest that holds it.

A place in a text is named by its line and its column.
-/

namespace PathRouter
namespace Text

/-- The mark that encloses a text. -/
def quotationMark (text : List Char) : Char :=
  if text.contains '\x27' && !text.contains '\x22' then '\x22' else '\x27'

/-- One character of a quoted text. -/
def quotedChar (mark c : Char) : List Char :=
  if c = mark ∨ c = '\\' then ['\\', c]
  else if c = '\n' then ['\\', 'n']
  else if c = '\r' then ['\\', 'r']
  else if c = '\t' then ['\\', 't']
  else if isPrintable c.toNat then [c]
  else if c.toNat < 0x100 then '\\' :: 'x' :: fixedHex 2 c.toNat
  else if c.toNat < 0x10000 then '\\' :: 'u' :: fixedHex 4 c.toNat
  else '\\' :: 'U' :: fixedHex 8 c.toNat

/-- A text between quotation marks. -/
def quotedChars (text : List Char) : List Char :=
  let mark := quotationMark text
  mark :: (text.flatMap (quotedChar mark) ++ [mark])

/-- A text between quotation marks. -/
def quoted (text : String) : String := String.ofList (quotedChars text.toList)

/-- The line and the column of a place in a text, both counted from one. -/
def lineAndColumn (text : List Char) (position : Nat) : Nat × Nat :=
  let before := text.take position
  (before.count '\n' + 1,
    (before.reverse.takeWhile (· ≠ '\n')).length + 1)

end Text
end PathRouter
