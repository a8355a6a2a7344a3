import PathRouter.Regex.Reader
import PathRouter.Regex.Symbol
import PathRouter.TokenRegistry
import PathRouter.Value

/-!
# Compiling patterns

A pattern is compiled into an expression: literal texts match themselves, each
token is a named group around its constraint, and groups are optional.  The
constraints are spliced into the text of the expression as they stand.  The
expression is anchored at both ends.

## Main definitions

* `Compiler`: a token registry with the constraint of all other tokens.
* `Compiler.source`: the text of the expression of a pattern.
* `Compiler.compile`: the expression of a pattern.
* `Compiler.defaults`: the defaults that a pattern gives.
-/

namespace PathRouter

/-- The pattern that a text stands for. -/
def parsePattern (pattern : String) : Except RoutingError Pattern :=
  (Pattern.parse pattern).mapError (.patternSyntax pattern)

/-- Token constraints, and the constraint of all tokens that have none. -/
structure Compiler where
  /-- The constraints of tokens. -/
  registry : TokenRegistry := {}
  /-- The constraint of all other tokens; `Value.null` stands for none. -/
  defaultConstraint : Value := .null

namespace Compiler

/-- The text of the default constraint, if there is one. -/
def defaultText? (compiler : Compiler) : Option String :=
  match compiler.defaultConstraint with
  | .null => none
  | value => some value.inText

/-- The constraint of a token. -/
def constraint? (compiler : Compiler) (token : TokenRef) : Option String :=
  compiler.registry.get? token.key <|> compiler.defaultText?

/-- The text of the expression of a parsed pattern, or the first token that has
no constraint. -/
def sourceOf (compiler : Compiler) : Pattern → Except TokenRef String
  | .nil => .ok ""
  | .literal text rest => do
      let behind ← compiler.sourceOf rest
      return String.ofList (Regex.literalChars text.toList) ++ behind
  | .token ref rest =>
      match compiler.constraint? ref with
      | none => .error ref
      | some constraint => do
          let behind ← compiler.sourceOf rest
          return "(?P<" ++ ref.name ++ ">" ++ constraint ++ ")" ++ behind
  | .group inner rest => do
      let inside ← compiler.sourceOf inner
      let behind ← compiler.sourceOf rest
      return "(?:" ++ inside ++ ")?" ++ behind

/-- The text of the expression of a pattern. -/
def source (compiler : Compiler) (pattern : String) :
    Except RoutingError String := do
  let tree ← parsePattern pattern
  match compiler.sourceOf tree with
  | .ok body => return "^" ++ body ++ "$"
  | .error ref => throw (.undeclaredToken ref.key pattern)

/-- The failure to read the expression of a pattern. -/
def failure (pattern source : String) : Regex.Fault → RoutingError
  | .limit exceeded => .limit exceeded
  | fault => .patternSyntax pattern (.badConstraint (fault.message source))

/-- The expression of a pattern. -/
def compile [CharacterNames] (compiler : Compiler) (pattern : String) :
    Except RoutingError Regex.Program := do
  let source ← compiler.source pattern
  (Regex.parse source).mapError (failure pattern source)

/-- The defaults that a pattern gives to its tokens. -/
def defaults (pattern : String) : Except RoutingError (Table String) := do
  let tree ← parsePattern pattern
  return .ofList tree.defaults

end Compiler
end PathRouter
