import ScopedStore.CommandLine
import ScopedStore.Database.Text

/-!
# The program

The program takes the files that a run can reach from the disk, does the run, and puts what the
run has changed back on the disk.
-/

set_option autoImplicit false

open ScopedStore

namespace ScopedStore.Disk

/-- What stands at a path on the disk. -/
def look (path : String) : IO (Option FileNode) := do
  try
    if ← (← IO.FS.realPath path).isDir then return some .directory
    let text ← IO.FS.readFile path
    return some ((Database.ofText? text).elim (.text text) .database)
  catch _ => return none

/-- The tree with what stands on the disk at a path and around it. -/
def load (tree : FileTree) (path : String) : IO FileTree := do
  let names := (Path.components path).foldl
    (fun names piece => if piece = ".." then names.dropLast else names ++ [piece]) []
  (List.range names.length).foldlM (fun tree count => do
    let inner := names.take (count + 1)
    match ← look (FileTree.place inner) with
    | some node => return tree.withNode inner node
    | none => return tree) tree

/-- Puts one thing on the disk. -/
def put (place : String) : FileNode → IO Unit
  | .directory => IO.FS.createDirAll place
  | .text content => IO.FS.writeFile place content
  | .database content => IO.FS.writeFile place content.toText

/-- Puts on the disk what a run may have changed: everything but the texts that it found. -/
def save (tree : FileTree) : IO Unit :=
  tree.nodes.entries.forM fun (place, node) =>
    match node with
    | .text content => if content.isEmpty then put place node else pure ()
    | _ => put place node

/-- A random number of 128 bits. -/
def randomNumber : IO Nat := do
  let bytes ← IO.getRandomBytes 16
  return bytes.toList.foldl (fun number byte => number * 256 + byte.toNat) 0

/-- The name of the environment variable that holds the directory for the log. -/
def logDirectoryVariable : String := "WAVESTORE_LOG_DIR"

end ScopedStore.Disk

/-- Runs the program. A run draws four ids at most. -/
def main (arguments : List String) : IO UInt32 := do
  let here := (← IO.currentDir).toString
  let logDirectory ← IO.getEnv Disk.logDirectoryVariable
  let reached := (here :: arguments.take 1 ++ logDirectory.toList).map (Path.absolute here)
  let bare := { FileTree.empty with workingDirectory := Path.components here }
  let files ← reached.foldlM Disk.load bare
  let numbers ← (List.range 4).mapM fun _ => Disk.randomNumber
  let result := CommandLine.run
    { arguments, logDirectory, files, ids := .ofNumbers numbers }
  Disk.save result.files
  IO.print result.output
  IO.eprint result.errors
  return result.exitCode.toUInt32
