import SourceSplice.Command
/-!
# The program

The command run on the files of the disk. The files that it may look up are read beforehand, those
that it changed are written afterwards.
-/

namespace SourceSplice.Disk

/-- The path of a place on the disk. -/
def path (place : Place) : String :=
  "/" ++ "/".intercalate place

/-- Reads what stands at a place, if anything does. What opens but cannot be read is a
directory. -/
def readEntry (place : Place) : IO (Option Entry) := do
  match ← (IO.FS.Handle.mk (path place) .read).toBaseIO with
  | .error _ => return none
  | .ok handle =>
    match ← handle.readBinToEnd.toBaseIO with
    | .ok content => return some (.file content)
    | .error _ => return some .directory

/-- Reads what stands at the places that are still missing from a tree, the system's own aside. -/
def readMissing (files : FileTree) (places : List Place) : IO FileTree :=
  places.foldlM (fun files place => do
    if (files.entry? place).isSome || FileTree.isSystemPlace place then return files
    match ← readEntry place with
    | some entry => return files.put place entry
    | none => return files) files

/-- Reads everything that a run of the program may look up. -/
partial def load (files : FileTree) (arguments : List String) : IO FileTree := do
  let more ← readMissing files (Command.placesConsulted files arguments)
  if more = files then return files else load more arguments

/-- Writes the files that a run of the program changed. -/
def save (before after : FileTree) : IO Unit :=
  after.entries.forM fun (place, entry) =>
    match entry with
    | .file content => do
      if before.entry? place ≠ some entry then
        IO.FS.writeBinFile (path place) content
    | _ => return

end SourceSplice.Disk

open SourceSplice in
def main (arguments : List String) : IO UInt32 := do
  let working := (← IO.currentDir).toString.splitOn "/" |>.filter (· ≠ "")
  let files ← Disk.load (FileTree.inDirectory working) arguments
  let result := Command.run files arguments
  Disk.save files result.files
  (← IO.getStdout).write ⟨result.output.toArray⟩
  (← IO.getStderr).write ⟨result.errorOutput.toArray⟩
  return result.exitCode.toUInt32
