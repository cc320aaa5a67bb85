import SourceSplice.FileSystem.Cursor
import SourceSplice.Scanner
/-!
# Scans of files that change

A scan over a tree of files that may change between two items, as it does when the scan is printed
to one of them. In every open file one line is read ahead: the next line is read as soon as one
was taken, and the first one when the file is opened. So what is written after the last line of a
file is seen only if that is before the last line was taken.
-/

namespace SourceSplice

/-- The files of a tree for a scan that reads their lines through cursors: what opens has none. -/
def Cursor.fileSystem (t : FileTree) (cursors : List Cursor) : FileSystem where
  isFile path := (hold t cursors).isFile path
  openFile path := ((hold t cursors).findOpened path).map fun _ => Reader.finished

/-- A scan under way over files that may change. -/
structure LiveScan where
  /-- The scan. Each of its files holds no more than the line that was read ahead. -/
  scanner : Scanner
  /-- The cursors of its files. -/
  cursors : List Cursor

namespace LiveScan

/-- The cursors of the files on a stack: a file that was just opened gets one at its start, and
those of closed files are dropped. -/
def follow (t : FileTree) (stack : List FileHandle) (cursors : List Cursor) : List Cursor :=
  match stack with
  | [] => []
  | top :: below =>
    if cursors.length = below.length then
      Cursor.atStart (Cursor.hold t cursors) top.path :: cursors
    else cursors.drop (cursors.length - stack.length)

/-- Reads a line ahead in the files whose line was taken, which are the topmost ones. -/
def readAhead (t : FileTree) : List FileHandle → List Cursor → List FileHandle × List Cursor
  | handle :: handles, cursor :: cursors =>
    if handle.pending.isEmpty && !cursor.ended then
      let (line, cursor) := cursor.next t
      let (handles, cursors) := readAhead t handles cursors
      ({ handle with pending := line.toList } :: handles, cursor :: cursors)
    else (handle :: handles, cursor :: cursors)
  | handles, cursors => (handles, cursors)

/-- A scan with cursors that may lag behind it by one step. -/
def settle (t : FileTree) (scanner : Scanner) (cursors : List Cursor) : LiveScan :=
  let (stack, cursors) := readAhead t scanner.stack (follow t scanner.stack cursors)
  { scanner := { scanner with stack }, cursors }

/-- Starts a scan; the root must be a file. -/
def start (t : FileTree) (options : ScanOptions) (root : String) : Except RunError LiveScan :=
  (Scanner.start (Cursor.fileSystem t []) options root).map fun scanner => settle t scanner []

/-- The next item of a scan over the files as they are now. The tree itself is not kept. -/
def next (t : FileTree) (s : LiveScan) : Option ScanItem × LiveScan :=
  let (x, scanner) := { s.scanner with files := Cursor.fileSystem t s.cursors }.next
  (x, settle t { scanner with files := s.scanner.files } s.cursors)

end LiveScan

end SourceSplice
