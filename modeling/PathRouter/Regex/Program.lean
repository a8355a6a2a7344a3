import PathRouter.Regex.Match
import PathRouter.Table.Basic

/-!
# Expressions with their groups

A program is an expression together with the number of its groups and their
names.  Matching a whole text tells what each named group has read in it, if it
took part in the match.
-/

namespace PathRouter

/-- What the named groups of a match have read, in the order of their indices.
A group that took no part has no text. -/
abbrev Captures := Table (Option String)

namespace Regex

/-- An expression with its groups. -/
structure Program where
  /-- The expression. -/
  body : Regex
  /-- The number of groups. -/
  groupCount : Nat
  /-- The named groups with their indices, in ascending order. -/
  names : List (String × Nat)
deriving DecidableEq, Repr

namespace Program

/-- What a group has read. -/
def captured (text : Array Char) (state : MatchState) (index : Nat) :
    Option String :=
  (state.span? index).map fun (start, stop) =>
    String.ofList (text.extract start stop).toList

/-- What the named groups read in a whole text, if the expression matches
it. -/
def fullMatch? (program : Program) (text : String) : Option Captures :=
  let chars := text.toList.toArray
  (program.body.fullMatch? chars).map fun state =>
    Table.ofList (program.names.map fun (name, index) =>
      (name, captured chars state index))

end Program
end Regex
end PathRouter
