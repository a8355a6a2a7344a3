import PathRouter.Text.Hexadecimal
import PathRouter.Toml.Blank

/-!
# Texts between marks

A plain text stands between apostrophes and holds no escapes.  Any other text
stands between quotation marks, where a backslash starts an escape.  Three marks
in a row enclose a text of several lines: a line end right behind the opening
marks does not count, and up to two marks right in front of the closing ones
belong to the text.

## Main definitions

* `readPlain` and `readEscaped`: the two kinds of texts behind their opening
  mark.
* `readQuoted`: a text of either kind, on one line or on several.
-/

namespace PathRouter
namespace Toml

/-- What stands in front of a mark and behind it. -/
def splitAtMark? (mark : List Char) : List Char →
    Option (List Char × List Char)
  | [] => none
  | c :: rest =>
      if mark.isPrefixOf (c :: rest) then
        some ([], (c :: rest).drop mark.length)
      else
        (splitAtMark? mark rest).map fun (before, behind) =>
          (c :: before, behind)

/-- Reads a plain text behind its opening mark.  That the closing mark is
missing counts more than a control character. -/
def readPlain (mark : List Char) (illegal : Char → Bool) (text : List Char) :
    Except Fault (List Char × List Char) :=
  match splitAtMark? mark text with
  | none => refuse (.missingMark mark) []
  | some (before, behind) =>
      match before.dropWhile (!illegal ·) with
      | [] => .ok (before, behind)
      | c :: more =>
          refuse (.illegalCharacter c) (c :: more ++ mark ++ behind)

/-- What stands behind a mark is no longer than the text. -/
theorem length_le_of_splitAtMark? {mark text before behind : List Char}
    (split : splitAtMark? mark text = some (before, behind)) :
    behind.length ≤ text.length := by
  induction text generalizing before with
  | nil => simp [splitAtMark?] at split
  | cons c rest inductionHypothesis =>
      unfold splitAtMark? at split
      split at split
      · simp only [Option.some.injEq, Prod.mk.injEq] at split
        rw [← split.2, List.length_drop]
        omega
      · simp only [Option.map_eq_some_iff, Prod.mk.injEq, Prod.exists] at split
        obtain ⟨_, _, found, _, rfl⟩ := split
        exact Nat.le_succ_of_le (inductionHypothesis found)

/-- What stands behind a plain text is no longer than the text. -/
theorem length_le_of_readPlain {mark text content behind : List Char}
    {illegal : Char → Bool}
    (read : readPlain mark illegal text = .ok (content, behind)) :
    behind.length ≤ text.length := by
  unfold readPlain at read
  split at read
  · simp [refuse] at read
  · next found =>
      split at read
      · simp only [Except.ok.injEq, Prod.mk.injEq] at read
        exact read.2 ▸ length_le_of_splitAtMark? found
      · simp [refuse] at read

/-- The character that an escaped letter or mark stands for. -/
def escapedChar? : Char → Option Char
  | 'b' => some '\x08'
  | 't' => some '\t'
  | 'n' => some '\n'
  | 'f' => some '\x0c'
  | 'r' => some '\r'
  | '"' => some '"'
  | '\\' => some '\\'
  | _ => none

/-- Reads the code of an escape. -/
def readCode (width : Nat) (text : List Char) :
    Except Fault (List Char × List Char) :=
  let behind := text.drop width
  match Text.hexValue? (text.take width) with
  | some code =>
      if text.length < width then refuse .badCode text
      else if code.isValidChar then .ok ([Char.ofNat code], behind)
      else refuse .noCharacter behind
  | none => refuse .badCode text

/-- Reads an escape behind its backslash.  In a text of several lines, the
blanks at the end of a line and those at the start of the next ones can be
escaped. -/
def readEscape (severalLines : Bool) :
    List Char → Except Fault (List Char × List Char)
  | [] => refuse .badEscape []
  | c :: rest =>
      if severalLines && isSpaceOrLineEnd c then
        match skipSpaces (c :: rest) with
        | [] => .ok ([], [])
        | '\n' :: behind => .ok ([], behind.dropWhile isSpaceOrLineEnd)
        | behind => refuse .badEscape behind
      else if c = 'u' then readCode 4 rest
      else if c = 'U' then readCode 8 rest
      else
        match escapedChar? c with
        | some c => .ok ([c], rest)
        | none => refuse .badEscape rest

/-- What stands behind the code of an escape is no longer than the text. -/
theorem length_le_of_readCode {width : Nat} {text content behind : List Char}
    (read : readCode width text = .ok (content, behind)) :
    behind.length ≤ text.length := by
  unfold readCode at read
  dsimp only at read
  split at read
  · split at read
    · simp [refuse] at read
    · split at read
      · simp only [Except.ok.injEq, Prod.mk.injEq] at read
        rw [← read.2, List.length_drop]
        omega
      · simp [refuse] at read
  · simp [refuse] at read

/-- What stands behind an escape is no longer than the text. -/
theorem length_le_of_readEscape {severalLines : Bool}
    {text content behind : List Char}
    (read : readEscape severalLines text = .ok (content, behind)) :
    behind.length ≤ text.length := by
  unfold readEscape at read
  split at read
  · simp [refuse] at read
  · next c rest =>
      have spaces := length_dropWhile_le isSpace (c :: rest)
      split at read
      · split at read
        · simp only [Except.ok.injEq, Prod.mk.injEq] at read
          simp [← read.2]
        · next behindLine equal =>
            have blanks := length_dropWhile_le isSpaceOrLineEnd behindLine
            unfold skipSpaces at equal
            simp only [Except.ok.injEq, Prod.mk.injEq] at read
            rw [equal, List.length_cons] at spaces
            rw [← read.2]
            omega
        · simp [refuse] at read
      · split at read
        · exact Nat.le_succ_of_le (length_le_of_readCode read)
        · split at read
          · exact Nat.le_succ_of_le (length_le_of_readCode read)
          · split at read
            · simp only [Except.ok.injEq, Prod.mk.injEq] at read
              simp [← read.2]
            · simp [refuse] at read

/-- Reads a text with escapes behind its opening mark. -/
def readEscaped (severalLines : Bool) (text : List Char) :
    Except Fault (List Char × List Char) :=
  match text with
  | [] => refuse .unterminatedText []
  | '"' :: rest =>
      if !severalLines then .ok ([], rest)
      else if ['"', '"'].isPrefixOf rest then .ok ([], rest.drop 2)
      else do
        let (content, behind) ← readEscaped severalLines rest
        return ('"' :: content, behind)
  | '\\' :: rest =>
      match _escape : readEscape severalLines rest with
      | .ok (chars, behindEscape) => do
          let (content, behind) ← readEscaped severalLines behindEscape
          return (chars ++ content, behind)
      | .error fault => .error fault
  | c :: rest =>
      if if severalLines then isIllegalInLines c else isIllegal c then
        refuse (.illegalInText c) text
      else do
        let (content, behind) ← readEscaped severalLines rest
        return (c :: content, behind)
termination_by text.length
decreasing_by
  · simp
  · have bound := length_le_of_readEscape _escape
    simp only [List.length_cons]
    omega
  · simp

/-- A step that goes on with a longer text. -/
theorem length_lt_of_bind (front : List Char)
    {read : Except Fault (List Char × List Char)}
    {content behind : List Char} {bound : Nat}
    (shorter : ∀ {inner rest}, read = .ok (inner, rest) →
      rest.length < bound)
    (whole : (do
      let (content, behind) ← read
      return (front ++ content, behind)) = .ok (content, behind)) :
    behind.length < bound := by
  obtain ⟨⟨inner, rest⟩, found, whole⟩ := exists_of_bind whole
  simp only [pure, Except.pure, Except.ok.injEq, Prod.mk.injEq] at whole
  exact whole.2 ▸ shorter found

/-- What stands behind a text with escapes is shorter than the text. -/
theorem length_lt_of_readEscaped {severalLines : Bool}
    {text content behind : List Char}
    (read : readEscaped severalLines text = .ok (content, behind)) :
    behind.length < text.length := by
  fun_induction readEscaped severalLines text generalizing content behind with
  | case1 => simp [refuse] at read
  | case2 => simp_all
  | case3 =>
      simp only [Except.ok.injEq, Prod.mk.injEq] at read
      simp only [← read.2, List.length_drop, List.length_cons]
      omega
  | case4 _ _ _ inductionHypothesis =>
      exact Nat.lt_succ_of_lt
        (length_lt_of_bind ['"'] inductionHypothesis read)
  | case5 _ _ _ escape inductionHypothesis =>
      have bound := length_le_of_readEscape escape
      have shorter := length_lt_of_bind _ inductionHypothesis read
      simp only [List.length_cons]
      omega
  | case6 => simp at read
  | case7 => simp [refuse] at read
  | case8 c _ _ _ _ inductionHypothesis =>
      exact Nat.lt_succ_of_lt
        (length_lt_of_bind [c] inductionHypothesis read)

/-- Up to two marks at the front of a text, and what stands behind them. -/
def trailingMarks (mark : Char) : List Char → List Char × List Char
  | a :: b :: rest =>
      if a = mark then
        if b = mark then ([a, b], rest) else ([a], b :: rest)
      else ([], a :: b :: rest)
  | [a] => if a = mark then ([a], []) else ([], [a])
  | [] => ([], [])

/-- A text without the line end at its front. -/
def dropLineEnd : List Char → List Char
  | '\n' :: text => text
  | text => text

/-- The mark around a text. -/
def markOf (plain : Bool) : Char := if plain then '\x27' else '"'

/-- Reads a text of several lines up to the first three marks in a row. -/
def readBlock (plain : Bool) (text : List Char) :
    Except Fault (List Char × List Char) :=
  if plain then
    readPlain (List.replicate 3 (markOf plain)) isIllegalInLines text
  else readEscaped true text

/-- Reads a text of several lines behind its opening marks. -/
def readSeveralLines (plain : Bool) (text : List Char) :
    Except Fault (List Char × List Char) :=
  match readBlock plain (dropLineEnd text) with
  | .error fault => .error fault
  | .ok (content, behind) =>
      let (marks, behind) := trailingMarks (markOf plain) behind
      .ok (content ++ marks, behind)

/-- Reads a text of one line behind its opening mark. -/
def readSingleLine (plain : Bool) (text : List Char) :
    Except Fault (List Char × List Char) :=
  if plain then readPlain [markOf plain] isIllegal text
  else readEscaped false text

/-- Reads a text behind the first of its opening marks. -/
def readQuoted (plain : Bool) (text : List Char) :
    Except Fault (List Char × List Char) :=
  if (List.replicate 2 (markOf plain)).isPrefixOf text then
    readSeveralLines plain (text.drop 2)
  else readSingleLine plain text

/-- What stands behind a text of one line is no longer than the text. -/
theorem length_le_of_readSingleLine {plain : Bool}
    {text content behind : List Char}
    (read : readSingleLine plain text = .ok (content, behind)) :
    behind.length ≤ text.length := by
  unfold readSingleLine at read
  split at read
  · exact length_le_of_readPlain read
  · exact Nat.le_of_lt (length_lt_of_readEscaped read)

/-- What stands behind marks is no longer than the text. -/
theorem length_trailingMarks_le (mark : Char) (text : List Char) :
    (trailingMarks mark text).2.length ≤ text.length := by
  unfold trailingMarks
  repeat' split
  all_goals simp only [List.length_cons, List.length_nil]
  all_goals omega

/-- What stands behind a line end is no longer than the text. -/
theorem length_dropLineEnd_le (text : List Char) :
    (dropLineEnd text).length ≤ text.length := by
  unfold dropLineEnd
  split <;> simp

/-- What stands behind a text of several lines is no longer than the text. -/
theorem length_le_of_readBlock {plain : Bool} {text content behind : List Char}
    (read : readBlock plain text = .ok (content, behind)) :
    behind.length ≤ text.length := by
  unfold readBlock at read
  split at read
  · exact length_le_of_readPlain read
  · exact Nat.le_of_lt (length_lt_of_readEscaped read)

/-- What stands behind a text of several lines is no longer than the text. -/
theorem length_le_of_readSeveralLines {plain : Bool}
    {text content behind : List Char}
    (read : readSeveralLines plain text = .ok (content, behind)) :
    behind.length ≤ text.length := by
  have start := length_dropLineEnd_le text
  unfold readSeveralLines at read
  split at read
  · simp at read
  · next rest found =>
      have block := length_le_of_readBlock found
      have marks := length_trailingMarks_le (markOf plain) rest
      simp only [Except.ok.injEq, Prod.mk.injEq] at read
      rw [← read.2]
      omega

/-- What stands behind a text is no longer than the text. -/
theorem length_le_of_readQuoted {plain : Bool} {text content behind : List Char}
    (read : readQuoted plain text = .ok (content, behind)) :
    behind.length ≤ text.length := by
  unfold readQuoted at read
  split at read
  · have bound := length_le_of_readSeveralLines read
    rw [List.length_drop] at bound
    omega
  · exact length_le_of_readSingleLine read

end Toml
end PathRouter
