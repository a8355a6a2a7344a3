import PathRouter.Regex.Fault
import PathRouter.Regex.CharTest
import PathRouter.Regex.Symbol
import PathRouter.Text.CharacterNames
import PathRouter.Text.Hexadecimal

/-!
# Escapes

A backslash and a character stand for a control character, for a property of
characters, or for a code point that the characters behind them spell out in
hexadecimal or octal digits or by the name of a character.  Such a spelling is
read symbol by symbol: it goes on as long as it can, and is given its value by
whatever comes next.
-/

namespace PathRouter
namespace Regex

/-- The control characters that have a letter, and the backslash itself. -/
def controlEscape? : Char → Option CodePoint
  | 'a' => some 0x07
  | 'b' => some 0x08
  | 't' => some 0x09
  | 'n' => some 0x0a
  | 'v' => some 0x0b
  | 'f' => some 0x0c
  | 'r' => some 0x0d
  | '\\' => some 0x5c
  | _ => none

/-- The properties that have a letter; in upper case it stands for the lack of
the property. -/
def categoryEscape? : Char → Option (CharProperty × Bool)
  | 'd' => some (.digit, false)
  | 'D' => some (.digit, true)
  | 's' => some (.blank, false)
  | 'S' => some (.blank, true)
  | 'w' => some (.word, false)
  | 'W' => some (.word, true)
  | _ => none

/-- The eight digits of octal numerals. -/
def isOctalDigit (c : Char) : Bool := '0' ≤ c && c ≤ '7'

/-- The ten digits. -/
def isDigit (c : Char) : Bool := '0' ≤ c && c ≤ '9'

/-- A code point that is being spelled out. -/
inductive Spelling where
  /-- Hexadecimal digits behind a letter, exactly as many as `size`. -/
  | hex (letter : Char) (size : Nat) (digits : List Char)
  /-- Up to three octal digits. -/
  | octal (digits : List Char)
  /-- A name in braces. -/
  | named (opened : Bool) (name : List Char)
  /-- A character whose name is complete. -/
  | character (c : Char)
deriving DecidableEq, Repr

namespace Spelling

/-- The spelling that a letter behind a backslash starts. -/
def ofLetter? : Char → Option Spelling
  | 'x' => some (hex 'x' 2 [])
  | 'u' => some (hex 'u' 4 [])
  | 'U' => some (hex 'U' 8 [])
  | 'N' => some (named false [])
  | _ => none

/-- Whether the spelling goes on with a symbol. -/
def accepts : Spelling → Symbol → Bool
  | hex _ size digits, .plain c =>
      digits.length < size && (Text.hexDigitValue? c).isSome
  | octal digits, .plain c => digits.length < 3 && isOctalDigit c
  | named false _, s => s == .plain '\x7b'
  | named true _, _ => true
  | _, _ => false

/-- The spelling after a symbol with which it goes on.  A name ends with its
brace, and must be that of a character. -/
def push [CharacterNames] (start position : Nat) (s : Symbol) :
    Spelling → Except Fault Spelling
  | hex letter size digits => .ok (hex letter size (digits ++ s.chars))
  | octal digits => .ok (octal (digits ++ s.chars))
  | named false name => .ok (named true name)
  | named true name =>
      if s = .plain '\x7d' then
        if name.isEmpty then
          .error (.malformed (.missingName "character name") (some position))
        else
          match CharacterNames.character? (String.ofList name) with
          | some c => .ok (character c)
          | none =>
              .error (.malformed (.undefinedCharacter (String.ofList name))
                (some start))
      else .ok (named true (name ++ s.chars))
  | character c => .ok (character c)

/-- The value of a row of octal digits. -/
def octalValue (digits : List Char) : Nat :=
  digits.foldl (fun value c => 8 * value + (c.toNat - 0x30)) 0

/-- The largest octal escape. -/
def octalLimit : Nat := 0o377

/-- The code point that the spelling stands for, when it does not go on at
`position`. -/
def value (start position : Nat) : Spelling → Except Fault CodePoint
  | hex letter size digits =>
      let text := String.ofList ('\\' :: letter :: digits)
      if digits.length = size then
        let code := (Text.hexValue? digits).getD 0
        if code < 0x110000 then .ok code
        else if code < 0x80000000 then
          .error (.malformed (.badEscape text) (some start))
        else .error (.limit .codePoint)
      else .error (.malformed (.incompleteEscape text) (some start))
  | octal digits =>
      if octalValue digits ≤ octalLimit then .ok (octalValue digits)
      else
        .error (.malformed
          (.octalTooLarge (String.ofList ('\\' :: digits))) (some start))
  | named false _ => .error (.malformed .missingBrace (some position))
  | named true name =>
      if name.isEmpty then
        .error (.malformed (.missingName "character name") (some position))
      else
        .error (.malformed (.unterminatedName '\x7d')
          (some (position - name.length)))
  | character c => .ok c.toNat

end Spelling
end Regex
end PathRouter
