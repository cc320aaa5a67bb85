import SourceSplice.Reader
/-!
# File systems

What a scan needs to know about the files: which paths name a file, and what opening a path
gives. A file system is a value and does not change while a scan uses it. Paths are texts; which
of them name the same file is the file system's own affair.
-/

namespace SourceSplice

/-- The files that a scan can see. -/
structure FileSystem where
  isFile : String → Bool
  /-- What opening a path gives: a reader over the whole file, or the reason why there is none. -/
  openFile : String → Except Fault Reader

namespace FileSystem

/-- What the lines of a file are, if it opens. -/
def outcomes (fs : FileSystem) (path : String) : Except Fault (List (Except Fault String)) :=
  (fs.openFile path).map Reader.outcomes

end FileSystem

end SourceSplice
