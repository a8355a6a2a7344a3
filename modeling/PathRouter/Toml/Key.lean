import PathRouter.Toml.QuotedText

/-!
# Keys in documents

A key is a row of parts with points in between.  A part is bare, when it
consists of letters, digits, hyphens and low lines, or it is a text of one line.
-/

namespace PathRouter
namespace Toml

/-- The characters of bare parts. -/
def isBare (c : Char) : Bool := c.isAlphanum || c == '-' || c == '_'

/-- The characters that parts start with. -/
def isKeyStart (c : Char) : Bool := isBare c || c == '"' || c == '\x27'

/-- Reads a part of a key. -/
def readPart (text : List Char) : Except Fault (List Char × List Char) :=
  match text with
  | [] => refuse .badKeyStart []
  | c :: rest =>
      if isBare c then .ok (text.takeWhile isBare, text.dropWhile isBare)
      else if c = '\x27' then readSingleLine true rest
      else if c = '"' then readSingleLine false rest
      else refuse .badKeyStart text

/-- What stands behind a part of a key is no longer than the text. -/
theorem length_le_of_readPart {text part behind : List Char}
    (read : readPart text = .ok (part, behind)) :
    behind.length ≤ text.length := by
  unfold readPart at read
  split at read
  · simp [refuse] at read
  · split at read
    · simp only [Except.ok.injEq, Prod.mk.injEq] at read
      exact read.2 ▸ length_dropWhile_le _ _
    · split at read
      · exact Nat.le_succ_of_le (length_le_of_readSingleLine read)
      · split at read
        · exact Nat.le_succ_of_le (length_le_of_readSingleLine read)
        · simp [refuse] at read

/-- Reads a key and the blanks behind it. -/
def readKey (text : List Char) : Except Fault (Key × List Char) :=
  match _part : readPart text with
  | .error fault => .error fault
  | .ok (part, behindPart) =>
      match _point : skipSpaces behindPart with
      | '.' :: rest => do
          let (parts, behind) ← readKey (skipSpaces rest)
          return (String.ofList part :: parts, behind)
      | behind => .ok ([String.ofList part], behind)
termination_by text.length
decreasing_by
  have part := length_le_of_readPart _part
  have point := length_dropWhile_le isSpace behindPart
  have spaces := length_dropWhile_le isSpace rest
  unfold skipSpaces at _point
  rw [_point, List.length_cons] at point
  unfold skipSpaces
  omega

/-- What stands behind a key is no longer than the text. -/
theorem length_le_of_readKey {text behind : List Char} {key : Key}
    (read : readKey text = .ok (key, behind)) :
    behind.length ≤ text.length := by
  fun_induction readKey text generalizing key behind with
  | case1 => simp at read
  | case2 text part behindPart found rest equal inductionHypothesis =>
      have bound := length_le_of_readPart found
      have point := length_dropWhile_le isSpace behindPart
      have spaces := length_dropWhile_le isSpace rest
      unfold skipSpaces at equal
      rw [equal, List.length_cons] at point
      obtain ⟨_, later, read⟩ := exists_of_bind read
      simp only [pure, Except.pure, Except.ok.injEq, Prod.mk.injEq] at read
      have tail := inductionHypothesis later
      rw [read.2] at tail
      unfold skipSpaces at tail
      omega
  | case3 text part behindPart found =>
      have bound := length_le_of_readPart found
      have point := length_dropWhile_le isSpace behindPart
      simp only [Except.ok.injEq, Prod.mk.injEq] at read
      rw [← read.2]
      exact Nat.le_trans point bound

/-- Reads a key, the equals sign behind it, and blanks. -/
def readAssignment (text : List Char) : Except Fault (Key × List Char) :=
  match readKey text with
  | .error fault => .error fault
  | .ok (key, '=' :: behind) => .ok (key, skipSpaces behind)
  | .ok (_, behind) => refuse .missingEquals behind

/-- What stands behind an assignment is shorter than the text. -/
theorem length_lt_of_readAssignment {text behind : List Char} {key : Key}
    (read : readAssignment text = .ok (key, behind)) :
    behind.length < text.length := by
  unfold readAssignment at read
  split at read
  · simp at read
  · next rest found =>
      have bound := length_le_of_readKey found
      have spaces := length_dropWhile_le isSpace rest
      simp only [Except.ok.injEq, Prod.mk.injEq] at read
      rw [← read.2]
      rw [List.length_cons] at bound
      exact Nat.lt_of_le_of_lt spaces bound
  · simp [refuse] at read

end Toml
end PathRouter
