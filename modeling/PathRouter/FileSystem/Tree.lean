import PathRouter.FileSystem.Location

/-!
# Files

A tree holds the files and directories that are known, by their locations.  A
location that is not known as a whole is followed name by name: each name but
the last must lead to a directory.  Outside of the working directory nothing
else is known.

## Main definitions

* `FileTree`: files and directories by their locations.
* `FileTree.read`: the bytes at a location, or why they cannot be read.
-/

namespace PathRouter

/-- What stands at a place in a tree of files. -/
inductive FileNode where
  /-- A file with its bytes. -/
  | file (bytes : List UInt8)
  /-- A directory. -/
  | directory
deriving DecidableEq, Repr

/-- Why a file cannot be read. -/
inductive ReadFault where
  /-- There is nothing. -/
  | missing
  /-- There is a directory. -/
  | isDirectory
  /-- There is a file where a directory ought to be. -/
  | notDirectory
  /-- A name is too long. -/
  | longName
deriving DecidableEq, Repr

/-- The wording of each fault. -/
def ReadFault.message : ReadFault → String
  | missing => "No such file or directory"
  | isDirectory => "Is a directory"
  | notDirectory => "Not a directory"
  | longName => "File name too long"

/-- Files and directories by their locations; the directories around them are
implied. -/
structure FileTree where
  /-- The files and directories; a later entry wins. -/
  nodes : List (Location × FileNode) := []

namespace FileTree

/-- The file or directory that is known at a location. -/
def known? (tree : FileTree) (location : Location) : Option FileNode :=
  tree.nodes.reverse.lookup location

/-- Whether something is known inside of a location. -/
def hasInside (tree : FileTree) (location : Location) : Bool :=
  tree.nodes.any fun (other, _) =>
    other.origin == location.origin && location.names.isPrefixOf other.names

/-- What stands at a location that leads nowhere outside. -/
def node? (tree : FileTree) (location : Location) : Option FileNode :=
  match tree.known? location with
  | some node => some node
  | none =>
      if location.names.isEmpty || tree.hasInside location then
        some .directory
      else none

/-- A place that following a location leads to. -/
inductive Place where
  /-- A place in the working directory or below the root. -/
  | inside (location : Location)
  /-- A directory around the working directory. -/
  | outside
deriving DecidableEq, Repr

/-- The number of bytes that a name may have. -/
def maxNameWidth : Nat := 255

/-- The number of bytes that a location may have. -/
def maxLocationWidth : Nat := 4095

/-- The place around a place. -/
def Place.parent : Place → Place
  | outside => outside
  | inside ⟨origin, names⟩ =>
      if names.isEmpty ∧ origin = .workingDirectory then outside
      else inside ⟨origin, names.dropLast⟩

/-- Goes from a place, which must be a directory, to a name. -/
def enter (tree : FileTree) (place : Place) (name : String) :
    Except ReadFault Place := do
  if let .inside location := place then
    match tree.node? location with
    | none => throw .missing
    | some (.file _) => throw .notDirectory
    | some .directory => pure ()
  if name = ".." then return place.parent
  if maxNameWidth < name.utf8ByteSize then throw .longName
  match place with
  | .outside => throw .missing
  | .inside ⟨origin, names⟩ => return .inside ⟨origin, names ++ [name]⟩

/-- The place where a location starts. -/
def start : Origin → Place
  | .workingDirectory => .inside ⟨.workingDirectory, []⟩
  | .root | .doubleRoot => .inside ⟨.root, []⟩

/-- What following a location leads to. -/
def follow (tree : FileTree) (location : Location) :
    Except ReadFault FileNode := do
  let place ← location.names.foldlM tree.enter (start location.origin)
  match place with
  | .outside => return .directory
  | .inside location =>
      match tree.node? location with
      | some node => return node
      | none => throw .missing

/-- What stands at a location. -/
def find (tree : FileTree) (location : Location) :
    Except ReadFault FileNode :=
  if maxLocationWidth < location.render.utf8ByteSize then .error .longName
  else
    match tree.known? location with
    | some node => .ok node
    | none => tree.follow location

/-- The bytes of the file at a location. -/
def read (tree : FileTree) (location : Location) :
    Except ReadFault (List UInt8) := do
  match ← tree.find location with
  | .file bytes => return bytes
  | .directory => throw .isDirectory

end FileTree
end PathRouter
