import PathRouter.Decimal.Reading
import PathRouter.Json.Fault
import PathRouter.Text.Hexadecimal
import PathRouter.Text.Units
import PathRouter.Scalar

/-!
# Tokens of documents

A document falls into tokens: brackets, delimiters, texts, and words and
numerals that are values.  Where no token starts, the rest of the document is
one unknown token.  A text or a numeral that cannot be read is a token as well,
so that its fault counts only where such a token is due.

Among the words are three that stand for the infinities and for no number.

## Main definitions

* `Token.next`: the first token of a document, and what stands behind it.
* `scan`: all tokens of a document with their places.
-/

namespace PathRouter
namespace Json

/-- A token. -/
inductive Token where
  /-- Opens a mapping. -/
  | openMap
  /-- Closes a mapping. -/
  | closeMap
  /-- Opens a list. -/
  | openList
  /-- Closes a list. -/
  | closeList
  /-- Stands between a name and a value. -/
  | colon
  /-- Stands between members. -/
  | comma
  /-- A text. -/
  | text (content : String)
  /-- A value that is no text, list or mapping. -/
  | scalar (content : Scalar)
  /-- A text that cannot be read. -/
  | badText (fault : Fault)
  /-- A numeral of an integer that has too many digits. -/
  | hugeNumeral (digits : Nat)
  /-- Nothing that can stand anywhere. -/
  | unknown

/-- The characters that separate tokens. -/
def isSeparator (c : Char) : Bool :=
  c == ' ' || c == '\t' || c == '\n' || c == '\r'

/-- The code of the character that an escaped letter or mark stands for. -/
def escapedCode? : Char → Option Nat
  | '"' => some 0x22
  | '\\' => some 0x5c
  | '/' => some 0x2f
  | 'b' => some 0x08
  | 'f' => some 0x0c
  | 'n' => some 0x0a
  | 'r' => some 0x0d
  | 't' => some 0x09
  | _ => none

/-- The codes of a text up to its closing mark, and what stands behind the
mark.  An escaped unit has to be followed by something.  A text that is not
closed has the fault `unterminated`. -/
def readCodes (unterminated : Fault) :
    List Char → Except Fault (List Nat × List Char)
  | [] => .error unterminated
  | '"' :: rest => .ok ([], rest)
  | '\\' :: rest =>
      match rest with
      | [] => .error unterminated
      | 'u' :: digits =>
          match digits with
          | a :: b :: c :: d :: rest =>
              match Text.hexValue? [a, b, c, d] with
              | some unit =>
                  if rest.isEmpty then
                    .error (.malformed .badUnit (digits.length + 1))
                  else do
                    let (codes, behind) ← readCodes unterminated rest
                    return (unit :: codes, behind)
              | none => .error (.malformed .badUnit (digits.length + 1))
          | _ => .error (.malformed .badUnit (digits.length + 1))
      | c :: behindEscape =>
          match escapedCode? c with
          | some code => do
              let (codes, behind) ← readCodes unterminated behindEscape
              return (code :: codes, behind)
          | none => .error (.malformed .badEscape (rest.length + 1))
  | c :: rest =>
      if c.toNat < 0x20 then
        .error (.malformed .controlCharacter (rest.length + 1))
      else do
        let (codes, behind) ← readCodes unterminated rest
        return (c.toNat :: codes, behind)

/-- What stands behind a text is shorter than the text. -/
theorem length_lt_of_readCodes {unterminated : Fault} {text : List Char}
    {codes : List Nat} {behind : List Char}
    (read : readCodes unterminated text = .ok (codes, behind)) :
    behind.length < text.length := by
  fun_induction readCodes unterminated text generalizing codes behind <;>
    simp_all [bind, Except.bind, pure, Except.pure]
  all_goals
    split at read
    · simp at read
    · next inductionHypothesis _ _ found =>
        simp only [Except.ok.injEq, Prod.mk.injEq] at read
        have shorter := inductionHypothesis found
        simp only [read.2] at shorter
        omega

/-- The digits at the front of a text, and what stands behind them. -/
def leadingDigits (text : List Char) : List Char × List Char :=
  (text.takeWhile Char.isDigit, text.dropWhile Char.isDigit)

/-- The digits behind a point at the front of a text, and what stands behind
them.  A point without digits is none. -/
def leadingFraction : List Char → List Char × List Char
  | '.' :: text =>
      let (digits, behind) := leadingDigits text
      if digits.isEmpty then ([], '.' :: text) else (digits, behind)
  | text => ([], text)

/-- Whether a minus is at the front of a text, and what stands behind it. -/
def leadingMinus : List Char → Bool × List Char
  | '-' :: text => (true, text)
  | text => (false, text)

/-- Whether a minus is at the front of a text, and what stands behind it or
behind a plus. -/
def leadingSign : List Char → Bool × List Char
  | '+' :: text => (false, text)
  | text => leadingMinus text

/-- The exponent at the front of a text, and what stands behind it. -/
def leadingExponent (text : List Char) : Option Int × List Char :=
  match text with
  | mark :: rest =>
      if mark = 'e' ∨ mark = 'E' then
        let (negative, unsigned) := leadingSign rest
        let (digits, behind) := leadingDigits unsigned
        let size : Int := Decimal.natOfDigits digits
        if digits.isEmpty then (none, text)
        else (some (if negative then -size else size), behind)
      else (none, text)
  | [] => (none, text)

/-- The digits of the integer at the front of a text, and what stands behind
them.  A zero is not followed by digits. -/
def leadingWhole : List Char → List Char × List Char
  | '0' :: text => (['0'], text)
  | text => leadingDigits text

/-- The numeral at the front of a text, and what stands behind it. -/
def numeral (text : List Char) : Token × List Char :=
  let (negative, unsigned) := leadingMinus text
  let (whole, behindWhole) := leadingWhole unsigned
  let (fraction, behindFraction) := leadingFraction behindWhole
  let (exponent?, behind) := leadingExponent behindFraction
  if whole.isEmpty then (.unknown, [])
  else if fraction.isEmpty && exponent?.isNone then
    if Limit.maxNumeralDigits < whole.length then
      (.hugeNumeral whole.length, behind)
    else
      let size : Int := Decimal.natOfDigits whole
      (.scalar (.int (if negative then -size else size)), behind)
  else
    (.scalar (.float
      (Decimal.ofParts negative whole fraction (exponent?.getD 0))), behind)

/-- No character is lost. -/
theorem leadingDigits_append (text : List Char) :
    (leadingDigits text).1 ++ (leadingDigits text).2 = text :=
  List.takeWhile_append_dropWhile

/-- No character is lost. -/
theorem leadingWhole_append (text : List Char) :
    (leadingWhole text).1 ++ (leadingWhole text).2 = text := by
  unfold leadingWhole
  split
  · rfl
  · exact leadingDigits_append _

/-- What stands behind a fraction is no longer than the text. -/
theorem length_leadingFraction_le (text : List Char) :
    (leadingFraction text).2.length ≤ text.length := by
  unfold leadingFraction
  split
  · next rest =>
      have whole := congrArg List.length (leadingDigits_append rest)
      simp only [List.length_append] at whole
      dsimp only
      split <;> simp only [List.length_cons] <;> omega
  · exact Nat.le_refl _

/-- What stands behind a minus is no longer than the text. -/
theorem length_leadingMinus_le (text : List Char) :
    (leadingMinus text).2.length ≤ text.length := by
  unfold leadingMinus
  split <;> simp

/-- What stands behind a sign is no longer than the text. -/
theorem length_leadingSign_le (text : List Char) :
    (leadingSign text).2.length ≤ text.length := by
  unfold leadingSign
  split
  · simp
  · exact length_leadingMinus_le _

/-- What stands behind an exponent is no longer than the text. -/
theorem length_leadingExponent_le (text : List Char) :
    (leadingExponent text).2.length ≤ text.length := by
  unfold leadingExponent
  split
  · next mark rest =>
      have sign := length_leadingSign_le rest
      have digits := congrArg List.length
        (leadingDigits_append (leadingSign rest).2)
      simp only [List.length_append] at digits
      dsimp only
      split
      · split <;> simp only [List.length_cons] <;> omega
      · exact Nat.le_refl _
  · exact Nat.le_refl _

/-- What stands behind a numeral is shorter than the text. -/
theorem length_numeral_le (c : Char) (rest : List Char) :
    (numeral (c :: rest)).2.length ≤ rest.length := by
  have sign := length_leadingMinus_le (c :: rest)
  have whole := congrArg List.length
    (leadingWhole_append (leadingMinus (c :: rest)).2)
  have fraction := length_leadingFraction_le
    (leadingWhole (leadingMinus (c :: rest)).2).2
  have exponent := length_leadingExponent_le
    (leadingFraction (leadingWhole (leadingMinus (c :: rest)).2).2).2
  simp only [List.length_append, List.length_cons] at sign whole
  unfold numeral
  dsimp only
  split
  · simp
  · next nonempty =>
      have positive :
          0 < (leadingWhole (leadingMinus (c :: rest)).2).1.length := by
        rw [List.length_pos_iff]
        simpa using nonempty
      repeat' split
      all_goals
        dsimp only
        omega

/-- The words that are values. -/
def words : List (List Char × Scalar) :=
  [("null".toList, .null), ("true".toList, .bool true),
    ("false".toList, .bool false), ("NaN".toList, .float (0.0 / 0.0)),
    ("Infinity".toList, .float (1.0 / 0.0)),
    ("-Infinity".toList, .float (-1.0 / 0.0))]

/-- The word at the front of a text, and what stands behind it. -/
def leadingWord? (text : List Char) : Option (Scalar × List Char) :=
  (words.find? fun (word, _) => word.isPrefixOf text).map fun (word, content) =>
    (content, text.drop word.length)

namespace Token

/-- The token at the front of a text that starts with `c`, and what stands
behind it. -/
def next (c : Char) (rest : List Char) : Token × List Char :=
  match c with
  | '\x7b' => (openMap, rest)
  | '\x7d' => (closeMap, rest)
  | '[' => (openList, rest)
  | ']' => (closeList, rest)
  | ':' => (colon, rest)
  | ',' => (comma, rest)
  | '"' =>
      match readCodes (.malformed .unterminatedText (rest.length + 1)) rest with
      | .ok (codes, behind) =>
          (text (String.ofList (Text.ofUnits codes)), behind)
      | .error fault => (badText fault, [])
  | _ =>
      match leadingWord? (c :: rest) with
      | some (word, behind) => (scalar word, behind)
      | none => numeral (c :: rest)

/-- What stands behind a token is shorter than the text. -/
theorem length_next_le (c : Char) (rest : List Char) :
    (next c rest).2.length ≤ rest.length := by
  unfold next
  split <;> try exact Nat.le_refl _
  · split
    · next codes behind read => exact Nat.le_of_lt (length_lt_of_readCodes read)
    · simp
  · split
    · next word behind found =>
        unfold leadingWord? at found
        rw [Option.map_eq_some_iff] at found
        obtain ⟨⟨letters, content⟩, member, equal⟩ := found
        have listed := List.mem_of_find?_eq_some member
        have positive : 0 < letters.length := by
          simp only [words, List.mem_cons, Prod.mk.injEq,
            List.not_mem_nil, or_false] at listed
          rcases listed with h | h | h | h | h | h <;> rw [h.1] <;> decide
        simp only [Prod.mk.injEq] at equal
        rw [← equal.2, List.length_drop, List.length_cons]
        omega
    · exact length_numeral_le c rest

end Token

/-- A token with the number of characters from its start to the end of the
document. -/
structure Lexeme where
  /-- The token. -/
  token : Token
  /-- The number of characters that are left where it starts. -/
  left : Nat

/-- The tokens of a document. -/
def scan (document : List Char) : List Lexeme :=
  match _h : document.dropWhile isSeparator with
  | [] => []
  | c :: rest =>
      ⟨(Token.next c rest).1, rest.length + 1⟩ :: scan (Token.next c rest).2
termination_by document.length
decreasing_by
  have shorter := Token.length_next_le c rest
  have whole := congrArg List.length
    (List.takeWhile_append_dropWhile (p := isSeparator) (l := document))
  rw [_h] at whole
  simp only [List.length_append, List.length_cons] at whole
  omega

end Json
end PathRouter
