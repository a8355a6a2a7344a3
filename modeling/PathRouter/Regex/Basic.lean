import PathRouter.Regex.CharTest

/-!
# Regular expressions

The abstract syntax of the expressions that constrain tokens.  Flags are
resolved when an expression is read, so that every node says by itself how it
compares characters and where lines end.

## Main definitions

* `Regex`: the expressions.
* `Regex.sequence` and `Regex.alternation`: many expressions in a row or as
  alternatives.
* `Regex.width`: the least and the greatest number of characters that an
  expression may read.
-/

namespace PathRouter

/-- A condition on a place in the text. -/
inductive Anchor where
  /-- The start of the text. -/
  | textStart
  /-- The start of the text or of a line. -/
  | lineStart
  /-- The end of the text. -/
  | textEnd
  /-- The end of the text, or the place before a line feed that ends it. -/
  | lastLineEnd
  /-- The end of the text or of a line. -/
  | lineEnd
  /-- A place where a word starts or ends, or one where none does. -/
  | wordBoundary (ascii negated : Bool)
deriving DecidableEq, Repr

/-- The order in which a repetition tries its counts. -/
inductive Strategy where
  /-- As often as possible first. -/
  | greedy
  /-- As rarely as possible first. -/
  | lazy
  /-- As often as possible, and never less often afterwards. -/
  | possessive
deriving DecidableEq, Repr

/-- Bounds on the number of characters that an expression reads. -/
structure Width where
  /-- The least number. -/
  least : Nat
  /-- The greatest number, cut off at `Width.limit`. -/
  most : Nat
deriving DecidableEq, Repr

namespace Width

/-- Numbers of characters are not told apart from here on. -/
def limit : Nat := 0x10000000000000000

/-- The bounds of an expression that reads nothing. -/
def zero : Width := ⟨0, 0⟩

/-- The bounds of one character. -/
def one : Width := ⟨1, 1⟩

/-- The bounds of two expressions in a row. -/
def add (a b : Width) : Width :=
  ⟨min limit (a.least + b.least), min limit (a.most + b.most)⟩

/-- The bounds of two alternatives. -/
def join (a b : Width) : Width := ⟨min a.least b.least, max a.most b.most⟩

/-- The bounds of a repetition. -/
def scale (a : Width) (least : Nat) (most : Option Nat) : Width where
  least := min limit (a.least * least)
  most :=
    match most with
    | some most => min limit (a.most * most)
    | none => if a.most = 0 then 0 else limit

end Width

/-- A regular expression. -/
inductive Regex where
  /-- Reads nothing. -/
  | empty
  /-- Reads one character that passes the test. -/
  | one (test : CharTest)
  /-- Reads nothing, where the anchor holds. -/
  | assert (anchor : Anchor)
  /-- Reads again what a group has read. -/
  | backreference (folding : Folding) (index : Nat)
  /-- Reads one expression after another. -/
  | seq (first second : Regex)
  /-- Reads one of two expressions, preferably the first. -/
  | alt (first second : Regex)
  /-- Reads an expression at least `least` and at most `most` times. -/
  | loop (strategy : Strategy) (least : Nat) (most : Option Nat) (body : Regex)
  /-- Reads an expression and records what it read under an index. -/
  | capture (index : Nat) (body : Regex)
  /-- Reads a bracketed expression. -/
  | group (body : Regex)
  /-- Reads one of two expressions, the first if a group has read something. -/
  | ifGroup (index : Nat) (yes no : Regex)
  /-- Reads nothing, where the expression could be read from here on, or could
  not. -/
  | ahead (positive : Bool) (body : Regex)
  /-- Reads nothing, where the expression could be read up to here, or could
  not. -/
  | behind (positive : Bool) (width : Width) (body : Regex)
  /-- Reads an expression in its preferred way only. -/
  | atomic (body : Regex)
deriving DecidableEq, Repr

namespace Regex

/-- Expressions in a row. -/
def sequence : List Regex → Regex
  | [] => empty
  | [r] => r
  | r :: rest => seq r (sequence rest)

/-- Alternatives, the first one preferred. -/
def alternation : List Regex → Regex
  | [] => empty
  | [r] => r
  | r :: rest => alt r (alternation rest)

/-- A condition on a place may not be repeated. -/
def isAnchor : Regex → Bool
  | assert _ => true
  | _ => false

/-- A repetition may not be repeated at once. -/
def isLoop : Regex → Bool
  | loop .. => true
  | _ => false

/-- The bounds of an expression, given those of the groups it refers to. -/
def width (groupWidth : Nat → Width) : Regex → Width
  | empty => .zero
  | one _ => .one
  | assert _ => .zero
  | backreference _ index => groupWidth index
  | seq first second => (first.width groupWidth).add (second.width groupWidth)
  | alt first second => (first.width groupWidth).join (second.width groupWidth)
  | loop _ least most body => (body.width groupWidth).scale least most
  | capture _ body => body.width groupWidth
  | group body => body.width groupWidth
  | ifGroup _ yes no => (yes.width groupWidth).join (no.width groupWidth)
  | ahead .. => .zero
  | behind .. => .zero
  | atomic body => body.width groupWidth

/-- The bounds of all expressions that are looked for behind a place, in the
order in which they stand. -/
def widthsBehind : Regex → List Width
  | behind _ width body => width :: body.widthsBehind
  | seq first second => first.widthsBehind ++ second.widthsBehind
  | alt first second => first.widthsBehind ++ second.widthsBehind
  | ifGroup _ yes no => yes.widthsBehind ++ no.widthsBehind
  | loop _ _ _ body => body.widthsBehind
  | capture _ body => body.widthsBehind
  | group body => body.widthsBehind
  | ahead _ body => body.widthsBehind
  | atomic body => body.widthsBehind
  | _ => []

end Regex
end PathRouter
