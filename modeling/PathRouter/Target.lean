import PathRouter.Table.Basic
import PathRouter.Text.Alphanumeric

/-!
# Targets

A target template names what a route leads to: a controller, a method of it,
and defaults for the arguments of the method, as in `Post->show(slug=none)`.
Blanks do not count.  An arrow or a bracket ends a field, and only the first
three fields count: an empty controller or method is none.

The defaults are a list of entries, each with a name and, behind the first
equals sign, a value.
-/

namespace PathRouter

/-- What a route leads to. -/
structure Target where
  /-- The controller, if one is named. -/
  controller? : Option String
  /-- The method, if one is named. -/
  method? : Option String
  /-- The defaults of the arguments. -/
  defaults : Table String := {}
deriving DecidableEq

namespace Target

/-- The parts of a text between separators. -/
def splitAt (separator : Char) : List Char → List (List Char)
  | [] => [[]]
  | c :: rest =>
      if c = separator then [] :: splitAt separator rest
      else
        match splitAt separator rest with
        | [] => [[c]]
        | part :: parts => (c :: part) :: parts

/-- The name and the value of an entry; without an equals sign the value is
empty. -/
def entry (text : List Char) : String × String :=
  (String.ofList (text.takeWhile (· ≠ '=')),
    String.ofList ((text.dropWhile (· ≠ '=')).drop 1))

/-- The defaults that a list of entries stands for; empty entries do not
count. -/
def defaultsOf (text : List Char) : Table String :=
  .ofList (((splitAt ',' text).filter (!·.isEmpty)).map entry)

/-- The defaults that a text stands for. -/
def parseDefaults (text : String) : Table String := defaultsOf text.toList

/-- The fields of a text: arrows and brackets end a field. -/
def fields : List Char → List (List Char)
  | [] => [[]]
  | '-' :: '>' :: rest => [] :: fields rest
  | c :: rest =>
      if c = '(' ∨ c = ')' then [] :: fields rest
      else
        match fields rest with
        | [] => [[c]]
        | field :: more => (c :: field) :: more

/-- A field, if it is not empty. -/
def nonempty? (field : List Char) : Option String :=
  if field.isEmpty then none else some (String.ofList field)

/-- The target that a template stands for. -/
def parse (template : String) : Target :=
  let text := template.toList.filter fun c => !Text.isBlank c.toNat
  let fields := fields text
  { controller? := nonempty? (fields.getD 0 [])
    method? := nonempty? (fields.getD 1 [])
    defaults := defaultsOf (fields.getD 2 []) }

end Target
end PathRouter
