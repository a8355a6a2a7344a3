import PathRouter.Error
import PathRouter.Table.Basic

/-!
# Token registries

A registry gives tokens their constraints.  Tokens are registered under their
name with a colon in front; the colon may be left out wherever a name is given.
-/

namespace PathRouter

/-- A token name with its colon. -/
def tokenKey (name : String) : String :=
  match name.toList with
  | ':' :: _ => name
  | _ => ":" ++ name

/-- The constraints of tokens, in the order in which they were first
registered. -/
structure TokenRegistry where
  /-- The constraints by name, colons included. -/
  table : Table String
deriving DecidableEq

namespace TokenRegistry

/-- The registry without tokens. -/
def empty : TokenRegistry := ⟨.empty⟩

instance : EmptyCollection TokenRegistry := ⟨empty⟩

instance : Inhabited TokenRegistry := ⟨empty⟩

/-- Registers a token, or changes its constraint. -/
def insert (registry : TokenRegistry) (name constraint : String) :
    TokenRegistry :=
  ⟨registry.table.insert (tokenKey name) constraint⟩

/-- The registry that registering tokens in turn leaves behind. -/
def ofList (entries : List (String × String)) : TokenRegistry :=
  entries.foldl (fun registry entry => registry.insert entry.1 entry.2) empty

/-- Whether a token is registered. -/
def contains (registry : TokenRegistry) (name : String) : Bool :=
  tokenKey name ∈ registry.table

/-- The constraint of a token. -/
def get? (registry : TokenRegistry) (name : String) : Option String :=
  registry.table.get? (tokenKey name)

/-- The constraint of a token, or the failure to find it. -/
def get (registry : TokenRegistry) (name : String) :
    Except RoutingError String :=
  match registry.get? name with
  | some constraint => .ok constraint
  | none => .error (.unknownToken name)

end TokenRegistry
end PathRouter
