import PathRouter.Regex.Basic

/-!
# Flags

Flags choose how the nodes of an expression compare characters and where lines
end.  They hold for the whole expression or for a bracketed part of it.
-/

namespace PathRouter
namespace Regex

/-- A letter that may stand among flags. -/
inductive Flag where
  /-- Case does not matter. -/
  | ignoreCase
  /-- Characters follow the rules of a locale. -/
  | locale
  /-- Anchors know every line. -/
  | multiline
  /-- The dot reads line feeds. -/
  | dotAll
  /-- Blanks and comments are skipped. -/
  | verbose
  /-- Characters follow the rules of the first 128 code points. -/
  | ascii
  /-- A flag without effect, which parts of an expression may not change. -/
  | template
  /-- Characters follow the rules of all scripts. -/
  | unicode
deriving DecidableEq, Repr

namespace Flag

/-- The flag that a letter stands for. -/
def ofChar? : Char → Option Flag
  | 'i' => some ignoreCase
  | 'L' => some locale
  | 'm' => some multiline
  | 's' => some dotAll
  | 'x' => some verbose
  | 'a' => some ascii
  | 't' => some template
  | 'u' => some unicode
  | _ => none

/-- Flags that choose character rules exclude each other. -/
def choosesRules (flag : Flag) : Bool :=
  flag == ascii || flag == locale || flag == unicode

end Flag

/-- The flags in force at a place of an expression. -/
structure Flags where
  /-- Case does not matter. -/
  ignoreCase : Bool := false
  /-- Anchors know every line. -/
  multiline : Bool := false
  /-- The dot reads line feeds. -/
  dotAll : Bool := false
  /-- Blanks and comments are skipped. -/
  verbose : Bool := false
  /-- Characters follow the rules of the first 128 code points. -/
  ascii : Bool := false
deriving DecidableEq, Repr

namespace Flags

/-- The flags after some are turned on and others off. -/
def change (flags : Flags) (on off : List Flag) : Flags :=
  let value (old : Bool) (flag : Flag) : Bool :=
    (old || on.contains flag) && !off.contains flag
  { ignoreCase := value flags.ignoreCase .ignoreCase
    multiline := value flags.multiline .multiline
    dotAll := value flags.dotAll .dotAll
    verbose := value flags.verbose .verbose
    ascii := on.contains .ascii || flags.ascii && !on.contains .unicode }

/-- How letters of different case compare. -/
def folding (flags : Flags) : Folding :=
  if flags.ignoreCase then (if flags.ascii then .ascii else .full) else .exact

/-- The expression that reads one given code point. -/
def literal (flags : Flags) (c : CodePoint) : Regex :=
  .one (.literal flags.folding false c)

/-- The expression that reads one member of a set, or one of all others.  A
set whose only member is one code point is that code point. -/
def set (flags : Flags) (negated : Bool) (members : List SetMember) : Regex :=
  match members.eraseDups with
  | [.code c] => .one (.literal flags.folding negated c)
  | members => .one (.set flags.folding flags.ascii negated members)

/-- The expression that reads a character with a property, or one without.  No
property depends on case. -/
def category (flags : Flags) (property : CharProperty) (negated : Bool) :
    Regex :=
  .one (.set .exact flags.ascii false [.category property negated])

/-- The expression that reads any character. -/
def dot (flags : Flags) : Regex := .one (.any flags.dotAll)

/-- The anchor at the start. -/
def caret (flags : Flags) : Regex :=
  .assert (if flags.multiline then .lineStart else .textStart)

/-- The anchor at the end. -/
def dollar (flags : Flags) : Regex :=
  .assert (if flags.multiline then .lineEnd else .lastLineEnd)

/-- The anchor at the boundary of a word, or everywhere else. -/
def boundary (flags : Flags) (negated : Bool) : Regex :=
  .assert (.wordBoundary flags.ascii negated)

end Flags
end Regex
end PathRouter
