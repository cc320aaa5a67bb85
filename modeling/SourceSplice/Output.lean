import SourceSplice.FileSystem.Tree
import SourceSplice.RunError
import SourceSplice.Writer
/-!
# Print targets

Where a tap of the program prints: to standard output, or to a file that is emptied first. What is
printed to a file is collected in a buffer. The buffer is passed on when the next bytes do not fit
into it, and when it is flushed; a device without room shows its fault only then.

An output keeps what it has passed on until that is delivered, so several outputs can be brought
into one order of events.
-/

namespace SourceSplice

/-- What stands behind an output. -/
inductive Outlet where
  | standard
  /-- What stands at a place of the file tree. -/
  | opened (place : Place)
  /-- A device without room for a single byte. -/
  | full
  deriving DecidableEq, Repr

/-- An open print target. -/
structure Output where
  outlet : Outlet
  /-- The number of bytes that were delivered. -/
  delivered : Nat := 0
  /-- The bytes passed on but not yet delivered, the latest first. -/
  passedOn : List UInt8 := []
  /-- The bytes in the buffer, the latest first. -/
  buffered : List UInt8 := []
  bufferedSize : Nat := 0
  deriving DecidableEq, Repr

namespace Output

/-- The number of bytes that a buffer holds. -/
def bufferSize : Nat := 8192

/-- Passes bytes on, past the buffer. -/
def passOn (o : Output) (bytes : List UInt8) : Option Fault × Output :=
  match o.outlet, bytes with
  | _, [] => (none, o)
  | .full, _ => (some (.system .noSpaceLeft), o)
  | _, bytes => (none, { o with passedOn := bytes.reverseAux o.passedOn })

/-- Passes on what is in the buffer. -/
def flush (o : Output) : Option Fault × Output :=
  match o.passOn o.buffered.reverse with
  | (some fault, o) => (some fault, o)
  | (none, o) => (none, { o with buffered := [], bufferedSize := 0 })

/-- Puts bytes into the buffer, or passes them on if they would fill an empty one. -/
def collect (o : Output) (bytes : List UInt8) : Option Fault × Output :=
  if bufferSize ≤ bytes.length then o.passOn bytes
  else
    (none,
      { o with
        buffered := bytes.reverseAux o.buffered
        bufferedSize := o.bufferedSize + bytes.length })

/-- Prints bytes. Standard output has no buffer. -/
def write (o : Output) (bytes : List UInt8) : Option Fault × Output :=
  match o.outlet with
  | .standard => o.passOn bytes
  | _ =>
    if bufferSize < o.bufferedSize + bytes.length then
      match o.flush with
      | (some fault, o) => (some fault, o)
      | (none, o) => o.collect bytes
    else o.collect bytes

instance : Writer Output where
  write := write
  flush := flush

/-- Opens a print target: a file by its path, which is emptied and held open, or standard output. -/
def openTarget (files : FileTree) : Option String → Except RunError (Output × FileTree)
  | none => .ok ({ outlet := .standard }, files)
  | some path =>
    match files.target path with
    | .error fault => .error (.cannotOpenOutput path fault)
    | .ok (place, entry) =>
      let opened := files.hold files.freeNumber place
      match entry with
      | none => .ok ({ outlet := .opened place }, opened.put place (.file .empty))
      | some (.file _) => .ok ({ outlet := .opened place }, opened.put place (.file .empty))
      | some .fullDevice => .ok ({ outlet := .full }, opened)
      | some _ => .ok ({ outlet := .opened place }, opened)

end Output

end SourceSplice
