import PathRouter.Text.Quoted

/-!
# Public names

The package offers a few names at its top level.  Each of them has its home in
one of the modules of the package; any other name is reported as absent.
-/

namespace PathRouter
namespace PublicName

/-- The name of the package. -/
def package : String := "waypost"

/-- The public names with the paths of their homes inside the package. -/
def homes : List (String × List String) :=
  [("ConfigurationError", ["errors"]),
    ("PatternSyntaxError", ["errors"]),
    ("Route", ["routing", "route"]),
    ("Router", ["routing", "router"]),
    ("RouterConfig", ["config"]),
    ("UndeclaredTokenError", ["errors"]),
    ("UnknownRouteError", ["errors"]),
    ("UnknownTokenError", ["errors"]),
    ("WaypostError", ["errors"]),
    ("load_config", ["config"])]

/-- The module that is the home of a public name. -/
def home? (name : String) : Option String :=
  (homes.lookup name).map fun path => ".".intercalate (package :: path)

/-- The report that a module lacks a name. -/
def missing (holder name : String) : String :=
  "module " ++ Text.quoted holder ++ " has no attribute " ++ Text.quoted name

/-- The report that a name is not public. -/
def absent (name : String) : String := missing package name

end PublicName
end PathRouter
