import SourceSplice.FileSystem
/-!
# Files in memory

A store of files that keeps the last content written under each path and counts the readers that
it has handed out. A backslash in a path means the same as a slash. A reader holds the content
that the file had when it was opened, whatever is written later.

`MemorySession` puts a store and its readers together and says what each operation of a client
does to both.
-/

namespace SourceSplice

/-- Files by path, with the number of readers that are open. -/
structure MemoryStore where
  /-- Contents under normalized paths, the last written first. -/
  files : List (String × List UInt8) := []
  openReaders : Nat := 0
  deriving DecidableEq, Repr

/-- A reader over what a file held when it was opened: the bytes not yet read. -/
structure Snapshot where
  rest : List UInt8
  deriving DecidableEq, Repr

namespace Snapshot

/-- Up to `n` of the next bytes, with the reader behind them. -/
def read (s : Snapshot) (n : Nat) : List UInt8 × Snapshot :=
  (s.rest.take n, ⟨s.rest.drop n⟩)

end Snapshot

namespace MemoryStore

/-- A path with every backslash turned into a slash. -/
def normalize (path : String) : String :=
  String.ofList (path.toList.map fun c => if c = '\\' then '/' else c)

/-- Writes a file, in place of any former one. -/
def insert (m : MemoryStore) (path : String) (content : List UInt8) : MemoryStore :=
  { m with files := (normalize path, content) :: m.files }

def content? (m : MemoryStore) (path : String) : Option (List UInt8) :=
  m.files.lookup (normalize path)

def contains (m : MemoryStore) (path : String) : Bool :=
  (m.content? path).isSome

/-- Whether a path names a file: there is nothing else in the store. -/
def isFile (m : MemoryStore) (path : String) : Bool :=
  m.contains path

def openReader (m : MemoryStore) (path : String) : Except Fault (Snapshot × MemoryStore) :=
  match m.content? path with
  | some content => .ok (⟨content⟩, { m with openReaders := m.openReaders + 1 })
  | none => .error (.pathNotFound (normalize path))

/-- Takes note that one reader is gone. -/
def release (m : MemoryStore) : MemoryStore :=
  { m with openReaders := m.openReaders - 1 }

def fileSystem (m : MemoryStore) : FileSystem where
  isFile := m.isFile
  openFile path := (m.openReader path).map fun r => Reader.ofBytes r.1.rest

theorem outcomes_fileSystem (m : MemoryStore) (path : String) :
    m.fileSystem.outcomes path =
      match m.content? path with
      | some content => .ok (Reader.ofBytes content).outcomes
      | none => .error (.pathNotFound (normalize path)) := by
  simp only [FileSystem.outcomes, fileSystem, openReader]
  cases m.content? path <;> rfl

/-- A store that holds the given files, later ones in place of earlier ones. -/
def ofFiles (files : List (String × List UInt8)) : MemoryStore :=
  files.foldl (fun m f => m.insert f.1 f.2) {}

end MemoryStore

/-- A store with the readers that its client holds, in the order in which they were opened. -/
structure MemorySession where
  store : MemoryStore := {}
  readers : List Snapshot := []
  deriving DecidableEq, Repr

namespace MemorySession

inductive Request where
  | insert (path : String) (content : List UInt8)
  | contains (path : String)
  | isFile (path : String)
  | openReader (path : String)
  | read (reader : Nat) (n : Nat)
  | drop (reader : Nat)
  deriving DecidableEq, Repr

inductive Answer where
  | done
  | truth (value : Bool)
  /-- The position of the new reader among the client's readers. -/
  | opened (reader : Nat)
  | refused (fault : Fault)
  | bytes (bytes : List UInt8)
  /-- The client holds no such reader. -/
  | noReader
  deriving DecidableEq, Repr

/-- One request and its answer. -/
def serve (s : MemorySession) : Request → Answer × MemorySession
  | .insert path content => (.done, { s with store := s.store.insert path content })
  | .contains path => (.truth (s.store.contains path), s)
  | .isFile path => (.truth (s.store.isFile path), s)
  | .openReader path =>
    match s.store.openReader path with
    | .ok (reader, store) =>
      (.opened s.readers.length, { store, readers := s.readers ++ [reader] })
    | .error fault => (.refused fault, s)
  | .read i n =>
    match s.readers[i]? with
    | some reader => (.bytes (reader.read n).1, { s with readers := s.readers.set i (reader.read n).2 })
    | none => (.noReader, s)
  | .drop i =>
    if i < s.readers.length then
      (.done, { store := s.store.release, readers := s.readers.eraseIdx i })
    else (.noReader, s)

/-- The answers to a sequence of requests, with the session after them. -/
def serveAll (s : MemorySession) : List Request → List Answer × MemorySession
  | [] => ([], s)
  | r :: rs =>
    let (answer, s) := s.serve r
    let (answers, s) := serveAll s rs
    (answer :: answers, s)

theorem openReaders_serve {s : MemorySession} (h : s.store.openReaders = s.readers.length)
    (r : Request) : (s.serve r).2.store.openReaders = (s.serve r).2.readers.length := by
  cases r with
  | insert path content => simpa [serve, MemoryStore.insert] using h
  | contains path => simpa [serve] using h
  | isFile path => simpa [serve] using h
  | openReader path =>
    simp only [serve, MemoryStore.openReader]
    cases s.store.content? path <;> simp [h]
  | read i n =>
    simp only [serve]
    cases s.readers[i]? <;> simp [h]
  | drop i =>
    simp only [serve]
    by_cases hi : i < s.readers.length
    · simp [hi, MemoryStore.release, h, List.length_eraseIdx]
    · simp [hi, h]

end MemorySession

end SourceSplice
