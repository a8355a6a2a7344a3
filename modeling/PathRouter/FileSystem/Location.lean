/-!
# Locations of files

A location is a row of names from the outside to the inside, either from the
root or from the working directory.  Empty names and single dots lead nowhere
and are left out.  Two dots lead to the directory around; they are kept, since
what they lead to depends on the files.
-/

namespace PathRouter

/-- Where a location starts. -/
inductive Origin where
  /-- The working directory. -/
  | workingDirectory
  /-- The root. -/
  | root
  /-- The root, written with exactly two slashes. -/
  | doubleRoot
deriving DecidableEq, Repr

/-- Where a file is to be found. -/
structure Location where
  /-- Where the location starts. -/
  origin : Origin
  /-- The names from the outside to the inside. -/
  names : List String
deriving DecidableEq, Repr

namespace Location

/-- The parts of a text between slashes. -/
def parts : List Char → List (List Char)
  | [] => [[]]
  | c :: rest =>
      if c = '/' then [] :: parts rest
      else
        match parts rest with
        | [] => [[c]]
        | part :: more => (c :: part) :: more

/-- Where a text says that a location starts. -/
def originOf : List Char → Origin
  | '/' :: '/' :: '/' :: _ => .root
  | '/' :: '/' :: _ => .doubleRoot
  | '/' :: _ => .root
  | _ => .workingDirectory

/-- The location that a text stands for. -/
def ofText (text : String) : Location where
  origin := originOf text.toList
  names := (parts text.toList).filterMap fun part =>
    if part = [] ∨ part = ['.'] then none else some (String.ofList part)

/-- A location as a text. -/
def render (location : Location) : String :=
  let names := "/".intercalate location.names
  match location.origin with
  | .workingDirectory => if location.names.isEmpty then "." else names
  | .root => "/" ++ names
  | .doubleRoot => "//" ++ names

/-- The extension of a name with its dot, if both a name and an extension are
there around the last dot. -/
def extensionOf? (name : List Char) : Option (List Char) :=
  let last := (name.reverse.takeWhile (· ≠ '.')).reverse
  let width := last.length + 1
  if !last.isEmpty && width < name.length then some ('.' :: last) else none

/-- The extension of the innermost name. -/
def extension? (location : Location) : Option String :=
  location.names.getLast?.bind fun name =>
    (extensionOf? name.toList).map String.ofList

end Location
end PathRouter
