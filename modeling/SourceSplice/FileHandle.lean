import SourceSplice.FileSystem
import SourceSplice.ScanError
import SourceSplice.Text.Quoted
/-!
# Open files

A file that is being read line by line: its path as it was spelled, how many lines have been
read, and what reading will still give. After the last line, or after an error, there is nothing
more.
-/

namespace SourceSplice

structure FileHandle where
  path : String
  /-- The number of lines read, which is the number of the last one. -/
  currentLine : Nat := 0
  /-- What reading will still give. -/
  pending : List (Except Fault String)
  exhausted : Bool := false

namespace FileHandle

/-- Opens a file on behalf of an include; the root file has no site. -/
def openFile (fs : FileSystem) (path : String) (site : Option Site) :
    Except ScanError FileHandle :=
  match fs.outcomes path with
  | .ok pending => .ok { path, pending }
  | .error fault => .error (.cannotOpen path site fault)

/-- The next line with its number, or the error that ends the file, or nothing at its end. -/
def nextLine (h : FileHandle) : Option (Except ScanError (String × Nat)) × FileHandle :=
  match h.pending with
  | [] => (none, { h with exhausted := true })
  | .ok text :: pending =>
    (some (.ok (text, h.currentLine + 1)), { h with currentLine := h.currentLine + 1, pending })
  | .error fault :: pending =>
    (some (.error (.cannotRead h.path h.currentLine fault)), { h with pending })

def debug (h : FileHandle) : String :=
  "FileHandle \x7b path: " ++ Text.quoted h.path ++ ", current_line: " ++ toString h.currentLine
    ++ " \x7d"

/-- The number of readers that an open file holds: one until its end was met. -/
def openReaders (h : FileHandle) : Nat :=
  if h.exhausted then 0 else 1

/-- Lets go of a file, wherever its reading stands. -/
def close (h : FileHandle) : FileHandle :=
  { h with pending := [], exhausted := true }

@[simp] theorem pending_nextLine (h : FileHandle) : h.nextLine.2.pending = h.pending.tail := by
  obtain ⟨path, n, pending, e⟩ := h
  rcases pending with _ | ⟨_ | _, _⟩ <;> rfl

/-- Reads on until the end is met, and once more. -/
def readAll (h : FileHandle) : List (Option (Except ScanError (String × Nat)) × FileHandle) :=
  match _ : h.pending with
  | [] => [h.nextLine, h.nextLine.2.nextLine]
  | _ :: _ => h.nextLine :: readAll h.nextLine.2
termination_by h.pending.length
decreasing_by simp [*]

def readTimes (h : FileHandle) :
    Nat → List (Option (Except ScanError (String × Nat)) × FileHandle)
  | 0 => []
  | n + 1 => h.nextLine :: readTimes h.nextLine.2 n

end FileHandle

end SourceSplice
