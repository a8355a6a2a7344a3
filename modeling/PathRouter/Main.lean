import PathRouter.CommandLine.Run

/-!
# The program

Reads the file that the arguments name, runs the command, and writes what it
reports.  No modules can be loaded.
-/

open PathRouter PathRouter.CommandLine
open scoped PathRouter.CharacterNames.BasicLatin

/-- The file or directory at a path. -/
def readNode (path : String) : IO (Option FileNode) := do
  let file := (← IO.currentDir) / path
  if ← file.isDir then return some .directory
  try
    let bytes ← IO.FS.readBinFile file
    return some (.file bytes.toList)
  catch _ => return none

/-- The files that arguments refer to. -/
def readFiles (arguments : List String) : IO FileTree := do
  match Invocation.read arguments with
  | .ok { source? := some source, .. } =>
      match ← readNode source with
      | some node => return { nodes := [(Location.ofText source, node)] }
      | none => return {}
  | _ => return {}

/-- Runs the command that the arguments stand for. -/
def main (arguments : List String) : IO UInt32 := do
  let report := run { files := ← readFiles arguments } arguments
  IO.print report.output
  IO.eprint report.errors
  match report.ending with
  | .exit status => return UInt32.ofNat status
  | .failure error =>
      IO.eprintln error.message
      return 1
