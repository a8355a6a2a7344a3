import PathRouter.Pattern.Piece
import PathRouter.Text.Quoted

/-!
# Reading patterns

A text is a pattern when its brackets are balanced and no token is referred to
twice.  The pieces of the text are first checked from left to right, so that
the leftmost fault is reported; a bracket that is never closed is reported only
if nothing else is wrong.  The tree is then assembled from right to left, where
each closing bracket starts a row of nodes and its opening bracket ends it.
-/

namespace PathRouter

/-- Why a text is no pattern, or why a pattern cannot be compiled. -/
inductive PatternFault where
  /-- A closing bracket closes nothing. -/
  | unmatchedClosing (position : Nat)
  /-- A token is referred to again. -/
  | repeatedToken (name : String)
  /-- Brackets are never closed. -/
  | unclosed (count : Nat)
  /-- The constraints of the tokens make no expression. -/
  | badConstraint (reason : String)
  /-- A reason in the words of the caller. -/
  | described (reason : String)
deriving DecidableEq, Repr

/-- The wording of each fault. -/
def PatternFault.message : PatternFault → String
  | unmatchedClosing position =>
      "unmatched ')' at position " ++ toString position
  | repeatedToken name => "token ':" ++ name ++ "' is used more than once"
  | unclosed count => toString count ++ " unclosed '('"
  | badConstraint reason => "bad token constraint (" ++ reason ++ ")"
  | described reason => reason

namespace Piece

/-- The leftmost fault of a row of pieces that starts at `position`, inside of
`depth` brackets and behind the tokens `seen`. -/
def fault? (position depth : Nat) (seen : List String) :
    List Piece → Option PatternFault
  | [] => if depth = 0 then none else some (.unclosed depth)
  | piece :: rest =>
      let behind := position + piece.width
      match piece with
      | char _ => fault? behind depth seen rest
      | token ref =>
          if ref.name ∈ seen then some (.repeatedToken ref.name)
          else fault? behind depth (ref.name :: seen) rest
      | opening => fault? behind (depth + 1) seen rest
      | closing =>
          match depth with
          | 0 => some (.unmatchedClosing position)
          | depth + 1 => fault? behind depth seen rest

/-- The rows of nodes that stand at the front of a row of pieces: the row that
goes on at once, and one for each bracket that is closed later on but opened
earlier, from the inside. -/
def assemble : List Piece → Pattern × List Pattern
  | [] => (.nil, [])
  | piece :: rest =>
      let (row, outer) := assemble rest
      match piece with
      | char c => (row.consChar c, outer)
      | token ref => (.token ref row, outer)
      | closing => (.nil, row :: outer)
      | opening =>
          match outer with
          | [] => (row, [])
          | next :: outer => (.group row next, outer)

end Piece

/-- The pattern that a text stands for. -/
def Pattern.parse (text : String) : Except PatternFault Pattern :=
  let pieces := Piece.ofChars text.toList
  match Piece.fault? 0 0 [] pieces with
  | some fault => .error fault
  | none => .ok (Piece.assemble pieces).1

end PathRouter
