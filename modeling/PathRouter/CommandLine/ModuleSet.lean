import PathRouter.PublicName
import PathRouter.Router

/-!
# Modules

A module holds named objects, among them routers and functions that make one.
Modules are found by their full names.  A name with dots is looked for inside of
the module that the front of the name stands for, but no module here has others
inside, so that only a module with the full name is ever found.

## Main definitions

* `ModuleSet`: the modules that can be found.
* `ModuleSet.load`: the module with a name, or why there is none.
-/

namespace PathRouter
namespace CommandLine

/-- An object of a module. -/
inductive ModuleObject where
  /-- A router. -/
  | router (router : Router)
  /-- A value of a data format. -/
  | value (value : Value)
  /-- Anything else, with the name of its kind. -/
  | other (kind : String)

/-- What a name stands for in a module. -/
inductive ModuleMember where
  /-- An object. -/
  | object (object : ModuleObject)
  /-- A function that makes an object, or fails with a message. -/
  | factory (result : Except String ModuleObject)

/-- The modules that can be found. -/
structure ModuleSet where
  /-- The modules by name, with what they hold. -/
  modules : List (String × Table ModuleMember) := []

/-- Why a module is not found. -/
inductive ModuleFault where
  /-- There is no such module. -/
  | missing (name : String)
  /-- The module around it has no others inside. -/
  | notPackage (name parent : String)
  /-- The name is relative to a module that is not known. -/
  | relative (name : String)
  /-- The name is empty. -/
  | emptyName
deriving DecidableEq, Repr

namespace ModuleSet

/-- The module with exactly the name. -/
def find? (set : ModuleSet) (name : String) :
    Option (Table ModuleMember) :=
  set.modules.reverse.lookup name

/-- The first of some names, of which each lies inside of the next one. -/
def loadFirst (set : ModuleSet) :
    List String → Except ModuleFault (Table ModuleMember)
  | [] => .error .emptyName
  | name :: outer =>
      match set.find? name with
      | some members => .ok members
      | none =>
          match outer with
          | [] => .error (.missing name)
          | parent :: _ => do
              let _ ← loadFirst set outer
              throw (.notPackage name parent)

/-- A name and the names of the modules around it, from the inside. -/
def lineage (name : String) : List String :=
  let chars := name.toList
  let dots := chars.zipIdx.filterMap fun (c, index) =>
    if c = '.' then some index else none
  name :: dots.reverse.map fun index => String.ofList (chars.take index)

/-- The module with a name. -/
def load (set : ModuleSet) (name : String) :
    Except ModuleFault (Table ModuleMember) :=
  match name.toList with
  | [] => .error .emptyName
  | '.' :: _ => .error (.relative name)
  | _ => set.loadFirst (lineage name)

end ModuleSet
end CommandLine
end PathRouter
