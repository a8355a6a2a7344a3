import PathRouter.Regex.Program
import PathRouter.Target

/-!
# Arguments

The arguments of a resolved route come from several places.  What the path
itself gives wins over the defaults of the target, which win over the defaults
of the pattern.
-/

namespace PathRouter

/-- The arguments of a method, by name. -/
abbrev Arguments := Table String

namespace Arguments

/-- The texts that the groups of a match have read, without those that took no
part in it. -/
def ofCaptures (captures : Captures) : Arguments :=
  .ofList (captures.entries.filterMap fun (name, text?) =>
    text?.map (name, ·))

/-- Adds the defaults whose names are new. -/
def addDefaults (arguments : Arguments) (defaults : Table String) :
    Arguments :=
  defaults.entries.foldl
    (fun table entry => table.insertIfNew entry.1 entry.2) arguments

/-- The arguments that captures give, completed by tables of defaults, of which
an earlier one wins over a later one. -/
def merge (captures : Captures) (defaults : List (Table String)) : Arguments :=
  defaults.foldl addDefaults (ofCaptures captures)

/-- The arguments of a match that leads to a target, where the pattern has
defaults of its own. -/
def extract (captures : Captures) (target : Target) (inline : Table String) :
    Arguments :=
  merge captures [target.defaults, inline]

/-- Whether two tables give the same values to the same names, in any order. -/
def agree (a b : Arguments) : Bool :=
  a.size == b.size && a.entries.all fun (name, value) =>
    b.get? name == some value

end Arguments
end PathRouter
