import SourceSplice.Scanner
/-!
# Preprocessing

The whole scan of a root file folded into one result: the text of all plain lines in order, and
what was met on the way. The first error takes the place of the result.
-/

namespace SourceSplice

/-- What preprocessing a root file gives. -/
structure Preprocessed where
  /-- The text with every include replaced by what it includes; each line ends in a line feed. -/
  source : String := ""
  events : Nat := 0
  lines : Nat := 0
  /-- The files that were entered, each one once, in the order of their first entry. -/
  files : List String := []
  /-- The largest number of files that were open at a time. -/
  maxDepth : Nat := 0
  deriving DecidableEq, Repr

namespace Preprocessed

def add (p : Preprocessed) : Event → Preprocessed
  | .line text _ =>
    { p with source := p.source ++ text ++ "\n", events := p.events + 1, lines := p.lines + 1 }
  | .fileChange path =>
    { p with
      events := p.events + 1
      files := if p.files.contains path then p.files else p.files ++ [path] }

def addAll (p : Preprocessed) : List ScanItem → Except ScanError Preprocessed
  | [] => .ok p
  | .error e :: _ => .error e
  | .ok event :: items => addAll (p.add event) items

end Preprocessed

def preprocess (files : FileSystem) (options : ScanOptions) (root : String) :
    Except RunError Preprocessed :=
  match Scanner.start files options root with
  | .error e => .error e
  | .ok scanner =>
    let (items, last) := scanner.run
    match Preprocessed.addAll {} items with
    | .error e => .error (.scan e)
    | .ok p => .ok { p with maxDepth := last.maxDepth }

/-- The number of readers that preprocessing leaves open; it opens none if the scan does not
start. -/
def readersLeft (files : FileSystem) (options : ScanOptions) (root : String) : Nat :=
  match Scanner.start files options root with
  | .error _ => 0
  | .ok scanner => scanner.run.2.openReaders

end SourceSplice
