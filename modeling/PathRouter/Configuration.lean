import PathRouter.Error
import PathRouter.Table.Basic
import PathRouter.Value

/-!
# Configurations

A configuration holds the table of routes, the table of token constraints and
the constraint of all tokens that have none of their own.  It is made from
dynamic values, and its tables are checked on the way.

There are two ways to make one.  A mapping may hold no unknown keys, its default
constraint must be a text, and any value that counts as absent stands for an
empty table.  Separate fields are checked less: the default constraint is taken
as it is, and only a missing table stands for an empty one.
-/

namespace PathRouter

/-- The tables of a router. -/
structure Configuration where
  /-- The targets of the routes by pattern, in the order in which they are
  tried. -/
  routes : Table String := {}
  /-- The constraints of the tokens. -/
  tokens : Table String := {}
  /-- The constraint of all other tokens; `Value.null` stands for none. -/
  defaultConstraint : Value := .null

namespace Configuration

/-- The entries of a table, or the first one that is not made of texts. -/
def textEntries (table : String) :
    List (Scalar × Value) → Except ConfigurationFault (List (String × String))
  | [] => .ok []
  | (.text key, .text value) :: rest => do
      let entries ← textEntries table rest
      return (key, value) :: entries
  | (key, _) :: _ => .error (.entryKind table key.render)

/-- The table that a value stands for. -/
def tableOf (name : String) : Value →
    Except ConfigurationFault (Table String)
  | .null => .ok {}
  | .map keys values =>
      Table.ofList <$> textEntries name (Mapping.mk keys values).entries
  | value => .error (.tableKind name value.kind)

/-- A configuration from the values of its fields. -/
def ofFields (routes tokens defaultConstraint : Value) :
    Except RoutingError Configuration :=
  Except.mapError .configuration do
    let routes ← tableOf "routes" routes
    let tokens ← tableOf "tokens" tokens
    return { routes, tokens, defaultConstraint }

/-- The keys of a configuration. -/
def knownKeys : List String := ["routes", "tokens", "default_constraint"]

/-- The keys of a mapping that no configuration has. -/
def unknownKeys (mapping : Mapping) : List Scalar :=
  mapping.keys.list.filter fun key =>
    !knownKeys.any fun name => key.isSame (.text name)

/-- Why the first of some keys that has no order with the one in front of it has
none. -/
def disorder? : List Scalar → Option String
  | first :: second :: rest =>
      (second.disorder? first).or (disorder? (second :: rest))
  | _ => none

/-- What is exceeded by keys that are to be listed in ascending order, but are
not all texts.  The keys are compared in the order of their mapping; which two
kinds are named if there is no order is not fixed otherwise. -/
def keyLimit (keys : List Scalar) : Limit :=
  match disorder? keys with
  | some reason => .keyOrder reason
  | none =>
      let least := keys.tail.foldl
        (fun least key => if key.isBelow least then key else least)
        (keys.headD .null)
      .keyKind least.qualifiedKind

/-- The failure that lists unknown keys. -/
def refusal (keys : List Scalar) : RoutingError :=
  match keys.mapM Scalar.text? with
  | some names =>
      .configuration (.unknownKeys (names.mergeSort fun a b => a ≤ b))
  | none => .limit (keyLimit keys)

/-- A value, or an empty mapping if it counts as absent. -/
def orEmpty : Option Value → Value
  | some value => if value.isPresent then value else .ofMapping {}
  | none => .ofMapping {}

/-- A configuration from a mapping. -/
def ofMapping (mapping : Mapping) : Except RoutingError Configuration :=
  match unknownKeys mapping with
  | [] =>
      let fields := mapping.named
      let defaultConstraint := (fields.get? "default_constraint").getD .null
      match defaultConstraint with
      | .null | .text _ =>
          ofFields (orEmpty (fields.get? "routes"))
            (orEmpty (fields.get? "tokens")) defaultConstraint
      | _ => .error (.configuration .defaultConstraintKind)
  | keys => .error (refusal keys)

/-- A configuration from the entries of a mapping, each of them a field. -/
def ofFieldEntries (mapping : Mapping) : Except RoutingError Configuration :=
  let fields := mapping.named
  ofFields ((fields.get? "routes").getD (.ofMapping {}))
    ((fields.get? "tokens").getD (.ofMapping {}))
    ((fields.get? "default_constraint").getD .null)

end Configuration
end PathRouter
