import SourceSplice.FileSystem.Memory
/-!
# Clones of a memory file system

What a client holds of a store is two references, one to the files and one to the number of open
readers. A clone copies the references and not what they lead to, and a reader keeps a reference to
the number that it counts in. `CloneSession` is a client with several clones, who makes each
request through one of them.
-/

namespace SourceSplice

/-- A store as its client holds it: where its files stand, and where its count stands. -/
structure MemoryHandle where
  files : Nat := 0
  count : Nat := 0
  deriving DecidableEq, Repr

/-- A reader with the place of the count that it is part of. -/
structure CountedReader where
  snapshot : Snapshot
  count : Nat
  deriving DecidableEq, Repr

/-- What handles refer to, with the handles and the readers that a client holds. -/
structure CloneSession where
  files : List (List (String × List UInt8)) := [[]]
  counts : List Nat := [0]
  handles : List MemoryHandle := [{}]
  /-- The readers in the order in which they were opened. -/
  readers : List CountedReader := []
  deriving DecidableEq, Repr

namespace CloneSession

inductive Request where
  | clone (handle : Nat)
  | openReaders (handle : Nat)
  /-- What a client with such a handle asks for; for a reader the handle makes no difference. -/
  | through (handle : Nat) (request : MemorySession.Request)
  deriving DecidableEq, Repr

inductive Answer where
  /-- The position of the new handle among the client's handles. -/
  | cloned (handle : Nat)
  | count (n : Nat)
  | plain (answer : MemorySession.Answer)
  /-- The client holds no such handle. -/
  | noHandle
  deriving DecidableEq, Repr

/-- What a handle refers to. -/
def store (s : CloneSession) (handle : MemoryHandle) : MemoryStore where
  files := s.files.getD handle.files []
  openReaders := s.counts.getD handle.count 0

/-- Puts a store where a handle refers to. -/
def putStore (s : CloneSession) (handle : MemoryHandle) (store : MemoryStore) : CloneSession :=
  { s with
    files := s.files.set handle.files store.files
    counts := s.counts.set handle.count store.openReaders }

/-- One request of a client with this handle. -/
def serveThrough (s : CloneSession) (handle : MemoryHandle) :
    MemorySession.Request → MemorySession.Answer × CloneSession
  | .insert path content => (.done, s.putStore handle ((s.store handle).insert path content))
  | .contains path => (.truth ((s.store handle).contains path), s)
  | .isFile path => (.truth ((s.store handle).isFile path), s)
  | .openReader path =>
    match (s.store handle).openReader path with
    | .ok (snapshot, store) =>
      (.opened s.readers.length,
        { s.putStore handle store with
          readers := s.readers ++ [{ snapshot, count := handle.count }] })
    | .error fault => (.refused fault, s)
  | .read i n =>
    match s.readers[i]? with
    | some reader =>
      let (bytes, snapshot) := reader.snapshot.read n
      (.bytes bytes, { s with readers := s.readers.set i { reader with snapshot } })
    | none => (.noReader, s)
  | .drop i =>
    match s.readers[i]? with
    | some reader =>
      (.done,
        { s with
          counts := s.counts.modify reader.count (· - 1)
          readers := s.readers.eraseIdx i })
    | none => (.noReader, s)

/-- One request and its answer. -/
def serve (s : CloneSession) : Request → Answer × CloneSession
  | .clone h =>
    match s.handles[h]? with
    | some handle => (.cloned s.handles.length, { s with handles := s.handles ++ [handle] })
    | none => (.noHandle, s)
  | .openReaders h =>
    match s.handles[h]? with
    | some handle => (.count (s.store handle).openReaders, s)
    | none => (.noHandle, s)
  | .through h r =>
    match s.handles[h]? with
    | some handle =>
      let (answer, s) := s.serveThrough handle r
      (.plain answer, s)
    | none => (.noHandle, s)

/-- The answers to a sequence of requests, with the session after them. -/
def serveAll (s : CloneSession) : List Request → List Answer × CloneSession
  | [] => ([], s)
  | r :: rs =>
    let (answer, s) := s.serve r
    let (answers, s) := serveAll s rs
    (answer :: answers, s)

end CloneSession

end SourceSplice
