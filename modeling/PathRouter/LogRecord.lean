import PathRouter.Text.Quoted

/-!
# Log records

A router reports what it does at the lowest level of urgency: which entries are
overwritten, and what each path resolves to.
-/

namespace PathRouter

/-- Something that a router reports. -/
inductive LogRecord where
  /-- A route has a new target. -/
  | routeOverwritten (pattern earlier target : String)
  /-- A token has a new constraint. -/
  | tokenOverwritten (name constraint : String)
  /-- No route matches a path. -/
  | unmatched (path : String)
  /-- A route matches a path. -/
  | matched (path pattern : String) (controller? method? : Option String)
deriving DecidableEq, Repr

namespace LogRecord

/-- A name, or the word for none. -/
def nameOrNone (name? : Option String) : String := name?.getD "None"

/-- The wording of a record. -/
def message : LogRecord → String
  | routeOverwritten pattern earlier target =>
      "Route " ++ Text.quoted pattern ++ " overwritten: " ++
        Text.quoted earlier ++ " -> " ++ Text.quoted target
  | tokenOverwritten name constraint =>
      "Token " ++ Text.quoted name ++ " overwritten with constraint " ++
        Text.quoted constraint
  | unmatched path => "No route matches " ++ Text.quoted path
  | matched path pattern controller? method? =>
      Text.quoted path ++ " matched " ++ Text.quoted pattern ++ " -> " ++
        nameOrNone controller? ++ "->" ++ nameOrNone method?

/-- The level of every record. -/
def level : String := "DEBUG"

end LogRecord
end PathRouter
