import PathRouter.CommandLine.ModuleSet
import PathRouter.ConfigurationFile

/-!
# Where routes come from

A source is a configuration file, or it names an object of a module, as in
`module:name`.  It is taken for a file if its extension is that of one of the
formats, or if there is such a file.  The object is a router, or a function that
makes one; without a name, the object is called `router`.

## Main definitions

* `Surroundings`: the files and the modules that sources refer to.
* `Surroundings.routerOf`: the router that a source stands for.
-/

namespace PathRouter
namespace CommandLine

/-- The files and the modules that sources refer to. -/
structure Surroundings where
  /-- The files. -/
  files : FileTree := {}
  /-- The modules. -/
  modules : ModuleSet := {}

/-- Why a source stands for no router. -/
inductive SourceFault where
  /-- The source has no text. -/
  | missingText
  /-- The configuration is refused. -/
  | routing (error : RoutingError)
  /-- The module is not found. -/
  | absent (fault : ModuleFault)
  /-- The module has no such member. -/
  | missingMember (holder name : String)
  /-- The function that makes the router fails. -/
  | factory (source reason : String)
  /-- The object is no router. -/
  | notRouter (source kind : String)

namespace SourceFault

/-- The wording of each fault. -/
def message : SourceFault → String
  | missingText => "'list' object has no attribute 'endswith'"
  | routing error => error.message
  | absent (.missing name) => "No module named " ++ Text.quoted name
  | absent (.notPackage name parent) =>
      "No module named " ++ Text.quoted name ++ "; " ++ Text.quoted parent ++
        " is not a package"
  | absent (.relative name) =>
      "the 'package' argument is required to perform a relative import for "
        ++ Text.quoted name
  | absent .emptyName => Limit.emptyModuleName.message
  | missingMember holder name => PublicName.missing holder name
  | factory source reason =>
      "Factory function " ++ Text.quoted source ++ " raised an error: " ++
        reason
  | notRouter source kind =>
      Text.quoted source ++ " resolved to " ++ kind ++
        ", not a waypost.Router instance"

/-- The failure that is not the fault of the source, but exceeds a limit. -/
def escaping? : SourceFault → Option RoutingError
  | routing error => if error.kind.isConfiguration then none else some error
  | absent .emptyName => some (.limit .emptyModuleName)
  | _ => none

end SourceFault

/-- The extensions of configuration files. -/
def fileExtensions : List String := [".json", ".toml"]

/-- The name of a router in a module, unless another one is given. -/
def defaultMember : String := "router"

namespace Surroundings

/-- Whether there is a file at a path. -/
def hasFile (surroundings : Surroundings) (path : String) :
    Except RoutingError Bool :=
  let location := Location.ofText path
  if path.toList.contains '\x00' then .ok false
  else
    match surroundings.files.find location with
    | .ok (.file _) => .ok true
    | .error .longName => .error (.limit (.longFileName location.render))
    | _ => .ok false

/-- Whether a source is a file. -/
def isFileSource (surroundings : Surroundings) (source : String) :
    Except RoutingError Bool :=
  if fileExtensions.any fun extension =>
      extension.toList.isSuffixOf source.toList then .ok true
  else surroundings.hasFile source

variable [CharacterNames]

/-- The router in a configuration file. -/
def routerOfFile (surroundings : Surroundings) (path : String) :
    Except RoutingError Router := do
  let configuration ← Configuration.load surroundings.files path
  Router.ofConfiguration configuration

/-- The module and the member that a source names. -/
def splitSource (source : String) : String × String :=
  let holder := source.toList.takeWhile (· ≠ ':')
  let member := source.toList.drop (holder.length + 1)
  (String.ofList holder,
    if member.isEmpty then defaultMember else String.ofList member)

/-- The object that a member stands for. -/
def objectOf (source : String) :
    ModuleMember → Except SourceFault ModuleObject
  | .object object => .ok object
  | .factory result => result.mapError (.factory source)

/-- The router that a member of a module stands for. -/
def routerOfMember (surroundings : Surroundings) (source : String) :
    Except SourceFault Router := do
  let (name, member) := splitSource source
  let members ← (surroundings.modules.load name).mapError .absent
  match members.get? member with
  | none => throw (.missingMember name member)
  | some found =>
      match ← objectOf source found with
      | .router router => return router
      | .value value => throw (.notRouter source value.kind)
      | .other kind => throw (.notRouter source kind)

/-- The router that a source stands for. -/
def routerOf (surroundings : Surroundings) :
    Option String → Except SourceFault Router
  | none => .error .missingText
  | some source => do
      if ← (surroundings.isFileSource source).mapError .routing then
        (surroundings.routerOfFile source).mapError .routing
      else surroundings.routerOfMember source

end Surroundings
end CommandLine
end PathRouter
