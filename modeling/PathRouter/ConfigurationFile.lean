import PathRouter.Configuration
import PathRouter.FileSystem.Tree
import PathRouter.Json.Reader
import PathRouter.Json.Source
import PathRouter.Toml.Document

/-!
# Configuration files

A configuration is kept in a file of one of two formats.  The extension `.toml`
tells one of them; all other files have the other one.  The file holds a
mapping, from which the configuration is made.

## Main definitions

* `Configuration.ofBytes`: the configuration in the bytes of a file.
* `Configuration.load`: the configuration at a location.
-/

namespace PathRouter
namespace Configuration

/-- Refuses what a file holds. -/
def unparsable (location : Location) (reason : String) : RoutingError :=
  .configuration (.unparsable location.render reason)

/-- The value in a document of nested values. -/
def valueOfJson (location : Location) (bytes : List UInt8) :
    Except RoutingError Value := do
  let text ← (Json.decode bytes).mapError fun fault =>
    unparsable location fault.message
  (Json.parse text).mapError fun
    | .limit exceeded => .limit exceeded
    | fault => unparsable location (fault.message text)

/-- The value in a document of settings. -/
def valueOfToml (location : Location) (bytes : List UInt8) :
    Except RoutingError Value := do
  let text ← (Text.Encoding.utf8.decode false 0 bytes).mapError fun fault =>
    unparsable location fault.message
  let lines := Toml.plainLineEnds text
  Value.ofTable <$> (Toml.parse lines).mapError fun
    | .limit exceeded => .limit exceeded
    | fault => unparsable location (fault.message lines)

/-- The configuration in the bytes of the file at a location. -/
def ofBytes (location : Location) (bytes : List UInt8) :
    Except RoutingError Configuration := do
  let value ←
    if location.extension? = some ".toml" then valueOfToml location bytes
    else valueOfJson location bytes
  match value.mapping? with
  | some mapping => ofMapping mapping
  | none => throw (.configuration (.noTable location.render))

/-- The configuration in the file that a path leads to. -/
def load (tree : FileTree) (path : String) :
    Except RoutingError Configuration := do
  if path.toList.contains '\x00' then throw (.limit .nullCharacter)
  let location := Location.ofText path
  match tree.read location with
  | .ok bytes => ofBytes location bytes
  | .error fault =>
      throw (.configuration (.unreadable location.render fault.message))

end Configuration
end PathRouter
