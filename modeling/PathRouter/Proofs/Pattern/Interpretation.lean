import PathRouter.Pattern.Basic
import PathRouter.Regex.Program

/-!
# Interpreting patterns

A pattern can be matched against a path without an expression, by ordered
backtracking over its nodes: a literal text reads itself, a token reads up to
each place that its constraint admits, and a group is first entered and then
skipped.  The first way that reads the whole path counts.

The places that a token admits are a parameter, in order of preference.

## Main definitions

* `Pattern.readings`: all ways of reading a pattern.
* `Pattern.interpret?`: what the tokens read in a whole path.
-/

namespace PathRouter
namespace Pattern

/-- A place in a path, and what the tokens have read, the latest first. -/
structure Reading where
  /-- The number of characters read. -/
  position : Nat := 0
  /-- The tokens that took part, with their texts. -/
  found : List (String × String) := []
deriving DecidableEq, Repr

/-- The text between two places of a path. -/
def textBetween (path : List Char) (start stop : Nat) : String :=
  String.ofList ((path.drop start).take (stop - start))

/-- A token has read up to a place. -/
def Reading.record (reading : Reading) (path : List Char) (name : String)
    (stop : Nat) : Reading where
  position := stop
  found := (name, textBetween path reading.position stop) :: reading.found

/-- All ways of reading a pattern from a place on, in the order in which they
are tried. -/
def readings (admits : TokenRef → Nat → List Nat) (path : List Char) :
    Pattern → Reading → List Reading
  | nil, reading => [reading]
  | literal text rest, reading =>
      if text.toList.isPrefixOf (path.drop reading.position) then
        rest.readings admits path
          { reading with position := reading.position + text.toList.length }
      else []
  | token ref rest, reading =>
      (admits ref reading.position).flatMap fun stop =>
        rest.readings admits path (reading.record path ref.name stop)
  | group inner rest, reading =>
      (inner.readings admits path reading).flatMap
          (rest.readings admits path) ++
        rest.readings admits path reading

/-- What the tokens read in a whole path, if the pattern can be read.  A token
that took no part has no text. -/
def interpret? (admits : TokenRef → Nat → List Nat) (tree : Pattern)
    (path : String) : Option Captures :=
  let whole := (tree.readings admits path.toList {}).find? fun reading =>
    reading.position = path.toList.length
  whole.map fun reading =>
    Table.ofList (tree.tokens.map fun ref =>
      (ref.name, reading.found.lookup ref.name))

end Pattern
end PathRouter
