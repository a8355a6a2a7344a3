/-!
# Names of characters

The characters have names in the Unicode character database, which is not part
of the library.  What reads an expression only looks names up, so that the
look-up is a parameter of all that reads one.

## Main definitions

* `CharacterNames`: a look-up of names.
* `CharacterNames.BasicLatin`: the look-up that knows the printable characters
  of the first 128.
-/

namespace PathRouter

/-- A look-up of the names of characters. -/
class CharacterNames where
  /-- The character with a name.  The name of a sequence of several characters
  is none of a character. -/
  character? : String → Option Char

namespace CharacterNames
namespace BasicLatin

/-- The names of the characters from `' '` to `'/'`. -/
def signsBeforeDigits : List String :=
  ["SPACE", "EXCLAMATION MARK", "QUOTATION MARK", "NUMBER SIGN",
    "DOLLAR SIGN", "PERCENT SIGN", "AMPERSAND", "APOSTROPHE",
    "LEFT PARENTHESIS", "RIGHT PARENTHESIS", "ASTERISK", "PLUS SIGN",
    "COMMA", "HYPHEN-MINUS", "FULL STOP", "SOLIDUS"]

/-- The names of the digits. -/
def digits : List String :=
  ["DIGIT ZERO", "DIGIT ONE", "DIGIT TWO", "DIGIT THREE", "DIGIT FOUR",
    "DIGIT FIVE", "DIGIT SIX", "DIGIT SEVEN", "DIGIT EIGHT", "DIGIT NINE"]

/-- The names of the characters from `':'` to `'@'`. -/
def signsBehindDigits : List String :=
  ["COLON", "SEMICOLON", "LESS-THAN SIGN", "EQUALS SIGN",
    "GREATER-THAN SIGN", "QUESTION MARK", "COMMERCIAL AT"]

/-- The names of the letters whose names start in the same way. -/
def letters (start : String) : List (List Char) :=
  "ABCDEFGHIJKLMNOPQRSTUVWXYZ".toList.map fun c => start.toList ++ [c]

/-- The names of the characters from `'['` to the grave accent. -/
def signsBetweenLetters : List String :=
  ["LEFT SQUARE BRACKET", "REVERSE SOLIDUS", "RIGHT SQUARE BRACKET",
    "CIRCUMFLEX ACCENT", "LOW LINE", "GRAVE ACCENT"]

/-- The names of the characters from the opening brace to `'~'`. -/
def signsBehindLetters : List String :=
  ["LEFT CURLY BRACKET", "VERTICAL LINE", "RIGHT CURLY BRACKET", "TILDE"]

/-- The names of the printable characters, in the order of the characters. -/
def names : List (List Char) :=
  (signsBeforeDigits ++ digits ++ signsBehindDigits).map String.toList ++
    letters "LATIN CAPITAL LETTER " ++ signsBetweenLetters.map String.toList ++
    letters "LATIN SMALL LETTER " ++ signsBehindLetters.map String.toList

/-- The names of the printable characters, in any case. -/
scoped instance : CharacterNames where
  character? name :=
    (names.idxOf? (name.toList.map Char.toUpper)).map fun place =>
      Char.ofNat (0x20 + place)

end BasicLatin
end CharacterNames
end PathRouter
