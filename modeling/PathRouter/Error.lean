import PathRouter.Limit
import PathRouter.Pattern.Parser

/-!
# Errors

Every failure of the library is a value of one type.  Most of them say that a
configuration is wrong, some that a route or a token was never registered, and
some that an input exceeds a limit.

## Main definitions

* `RoutingError`: the failures, one constructor for each cause.
* `RoutingError.message`: the wording.
* `ErrorKind`: the kinds of failures and how they specialise each other.
-/

namespace PathRouter

/-- Why a configuration is refused, apart from its patterns. -/
inductive ConfigurationFault where
  /-- Keys that no configuration has, in ascending order. -/
  | unknownKeys (keys : List String)
  /-- The default constraint is no text. -/
  | defaultConstraintKind
  /-- A table is no mapping. -/
  | tableKind (table kind : String)
  /-- A table has a key or a value that is no text; the key is given as
  messages show it. -/
  | entryKind (table key : String)
  /-- A file cannot be read. -/
  | unreadable (path reason : String)
  /-- A file is not well formed. -/
  | unparsable (path reason : String)
  /-- A file holds something other than a mapping. -/
  | noTable (path : String)
  /-- A reason in the words of the caller. -/
  | described (reason : String)
deriving DecidableEq, Repr

/-- The wording of each fault. -/
def ConfigurationFault.message : ConfigurationFault → String
  | unknownKeys keys =>
      "Unknown router configuration keys: " ++ ", ".intercalate keys
  | defaultConstraintKind => "'default_constraint' must be a string"
  | tableKind table kind =>
      Text.quoted table ++ " must be a mapping of strings, got " ++ kind
  | entryKind table key =>
      Text.quoted table ++ " entry " ++ key ++
        " must map a string to a string"
  | unreadable path reason =>
      "Cannot read router configuration " ++ Text.quoted path ++ ": " ++
        reason
  | unparsable path reason =>
      "Cannot parse router configuration " ++ Text.quoted path ++ ": " ++
        reason
  | noTable path =>
      "Router configuration " ++ Text.quoted path ++
        " must be a table at the top level"
  | described reason => reason

/-- A failure. -/
inductive RoutingError where
  /-- A failure in the words of the caller. -/
  | general (message : String)
  /-- A configuration is refused. -/
  | configuration (fault : ConfigurationFault)
  /-- A text is no pattern, or its constraints make no expression. -/
  | patternSyntax (pattern : String) (fault : PatternFault)
  /-- A pattern refers to a token without a constraint. -/
  | undeclaredToken (token pattern : String)
  /-- A route was never registered. -/
  | unknownRoute (pattern : String)
  /-- A token was never registered. -/
  | unknownToken (name : String)
  /-- An input exceeds a limit. -/
  | limit (exceeded : Limit)
deriving DecidableEq, Repr

/-- The kinds of failures. -/
inductive ErrorKind where
  /-- Any failure of the library. -/
  | general
  /-- A configuration is wrong. -/
  | configuration
  /-- A pattern or its constraints are malformed. -/
  | patternSyntax
  /-- A token has no constraint. -/
  | undeclaredToken
  /-- A route was looked up in vain. -/
  | unknownRoute
  /-- A token was looked up in vain. -/
  | unknownToken
  /-- A number is too large. -/
  | overflow
  /-- A value is not acceptable. -/
  | badValue
  /-- The system refuses an operation. -/
  | system
  /-- A value is of the wrong kind. -/
  | wrongKind
deriving DecidableEq, Repr

namespace ErrorKind

/-- The kinds of the library that a kind specialises, itself included. -/
def ancestors : ErrorKind → List ErrorKind
  | general => [general]
  | configuration => [configuration, general]
  | patternSyntax => [patternSyntax, configuration, general]
  | undeclaredToken => [undeclaredToken, configuration, general]
  | unknownRoute => [unknownRoute, general]
  | unknownToken => [unknownToken, general]
  | overflow => [overflow]
  | badValue => [badValue]
  | system => [system]
  | wrongKind => [wrongKind]

/-- Whether the kind says that something was looked up in vain. -/
def isLookup : ErrorKind → Bool
  | unknownRoute | unknownToken => true
  | _ => false

/-- Whether the kind says that a configuration is wrong. -/
def isConfiguration (kind : ErrorKind) : Bool :=
  kind.ancestors.contains configuration

end ErrorKind

namespace RoutingError

/-- The kind of a failure. -/
def kind : RoutingError → ErrorKind
  | general _ => .general
  | configuration _ => .configuration
  | patternSyntax .. => .patternSyntax
  | undeclaredToken .. => .undeclaredToken
  | unknownRoute _ => .unknownRoute
  | unknownToken _ => .unknownToken
  | limit (.longFileName _) => .system
  | limit .missingText | limit (.keyKind _) | limit (.keyOrder _) => .wrongKind
  | limit exceeded => if exceeded.isOverflow then .overflow else .badValue

/-- The wording of a failure. -/
def message : RoutingError → String
  | general message => message
  | configuration fault => fault.message
  | patternSyntax pattern fault =>
      "Invalid route pattern " ++ Text.quoted pattern ++ ": " ++ fault.message
  | undeclaredToken token pattern =>
      "Token " ++ Text.quoted token ++ " used in route pattern " ++
        Text.quoted pattern ++ " is not declared. Register it with add_token("
        ++ Text.quoted token ++ ", ...) or set a default_constraint."
  | unknownRoute pattern =>
      "No route registered for pattern " ++ Text.quoted pattern
  | unknownToken name => "No token registered under " ++ Text.quoted name
  | limit exceeded => exceeded.message

end RoutingError
end PathRouter
