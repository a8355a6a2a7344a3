import PathRouter.Toml.Fault

/-!
# Blanks and comments

Blanks stand between the parts of a statement, and a comment may end its line.
Inside of lists, line ends count as blanks as well.
-/

namespace PathRouter
namespace Toml

/-- A blank or a tab. -/
def isSpace (c : Char) : Bool := c == ' ' || c == '\t'

/-- A blank, a tab or a line end. -/
def isSpaceOrLineEnd (c : Char) : Bool := isSpace c || c == '\n'

/-- A control character other than the tab: no line holds one. -/
def isIllegal (c : Char) : Bool :=
  (c.toNat < 0x20 || c.toNat == 0x7f) && c != '\t'

/-- A control character other than the tab and the line end. -/
def isIllegalInLines (c : Char) : Bool := isIllegal c && c != '\n'

/-- Skips blanks. -/
def skipSpaces (text : List Char) : List Char := text.dropWhile isSpace

/-- Skips a comment behind its mark, up to the end of the line. -/
def skipComment (text : List Char) : Except Fault (List Char) :=
  let behind := text.dropWhile (· ≠ '\n')
  match (text.takeWhile (· ≠ '\n')).dropWhile (!isIllegal ·) with
  | [] => .ok behind
  | c :: more => refuse (.illegalCharacter c) (c :: more ++ behind)

/-- Skips a comment, if there is one. -/
def skipAnyComment : List Char → Except Fault (List Char)
  | '#' :: text => skipComment text
  | text => .ok text

/-- What is left behind a run of characters is no longer than the text. -/
theorem length_dropWhile_le (p : Char → Bool) (text : List Char) :
    (text.dropWhile p).length ≤ text.length :=
  (List.dropWhile_suffix p).length_le

/-- What stands behind a comment is no longer than the text. -/
theorem length_le_of_skipComment {text behind : List Char}
    (skipped : skipComment text = .ok behind) :
    behind.length ≤ text.length := by
  unfold skipComment at skipped
  dsimp only at skipped
  split at skipped
  · simp only [Except.ok.injEq] at skipped
    exact skipped ▸ length_dropWhile_le _ _
  · simp [refuse] at skipped

/-- What stands behind a comment is no longer than the text. -/
theorem length_le_of_skipAnyComment {text behind : List Char}
    (skipped : skipAnyComment text = .ok behind) :
    behind.length ≤ text.length := by
  unfold skipAnyComment at skipped
  split at skipped
  · exact Nat.le_succ_of_le (length_le_of_skipComment skipped)
  · simp only [Except.ok.injEq] at skipped
    exact skipped ▸ Nat.le_refl _

/-- Skips blanks, line ends and comments. -/
def skipTrivia (text : List Char) : Except Fault (List Char) :=
  match _front : text.dropWhile isSpaceOrLineEnd with
  | '#' :: rest =>
      match _skipped : skipComment rest with
      | .ok behind => skipTrivia behind
      | .error fault => .error fault
  | behind => .ok behind
termination_by text.length
decreasing_by
  have front := length_dropWhile_le isSpaceOrLineEnd text
  have comment := length_le_of_skipComment _skipped
  rw [_front, List.length_cons] at front
  omega

/-- What stands behind blanks and comments is no longer than the text. -/
theorem length_le_of_skipTrivia {text behind : List Char}
    (skipped : skipTrivia text = .ok behind) :
    behind.length ≤ text.length := by
  fun_induction skipTrivia text with
  | case1 text rest front middle comment inductionHypothesis =>
      have bound := length_dropWhile_le isSpaceOrLineEnd text
      have shorter := length_le_of_skipComment comment
      have later := inductionHypothesis skipped
      rw [front, List.length_cons] at bound
      omega
  | case2 => simp at skipped
  | case3 text =>
      simp only [Except.ok.injEq] at skipped
      exact skipped ▸ length_dropWhile_le _ _

end Toml
end PathRouter
