/-!
# Route patterns

A pattern is a tree of literal texts, token references and optional groups.  A
tree is given by its first node and by what follows it, so that every statement
about patterns has one induction.

## Main definitions

* `TokenRef`: a reference to a token, perhaps with a default.
* `Pattern`: the trees.
* `Pattern.tokens`: all token references of a pattern, from left to right.
* `Pattern.defaults`: the defaults that a pattern gives.
-/

namespace PathRouter

/-- A reference to a token. -/
structure TokenRef where
  /-- The name of the token. -/
  name : String
  /-- The default for the token, if one is given. -/
  default? : Option String := none
deriving DecidableEq, Repr

/-- The token under the name by which it is registered. -/
def TokenRef.key (token : TokenRef) : String := ":" ++ token.name

/-- A route pattern: nothing, or a node and what follows it. -/
inductive Pattern where
  /-- The end of a row of nodes. -/
  | nil
  /-- A literal text. -/
  | literal (text : String) (rest : Pattern)
  /-- A token. -/
  | token (token : TokenRef) (rest : Pattern)
  /-- An optional group. -/
  | group (inner rest : Pattern)
deriving DecidableEq, Repr

namespace Pattern

/-- All token references, from left to right, at any depth. -/
def tokens : Pattern → List TokenRef
  | nil => []
  | literal _ rest => rest.tokens
  | token ref rest => ref :: rest.tokens
  | group inner rest => inner.tokens ++ rest.tokens

/-- The names of the tokens with the defaults that the pattern gives. -/
def defaults (p : Pattern) : List (String × String) :=
  p.tokens.filterMap fun ref => ref.default?.map (ref.name, ·)

/-- A pattern with a character in front: it joins a literal that comes
first. -/
def consChar (c : Char) : Pattern → Pattern
  | literal text rest => literal (String.ofList (c :: text.toList)) rest
  | p => literal (String.ofList [c]) p

end Pattern
end PathRouter
