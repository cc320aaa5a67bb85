import SourceSplice.FileSystem.Memory
import SourceSplice.Handoff
import SourceSplice.Scanner
/-!
# The threads of a scan

A scan as several threads. The scanning thread keeps the stack of open files and hands its items
over to the consumer. Every open file has a thread of its own, which holds the reader of the file
and hands over to the scanning thread what reading gives. Opening a file opens a reader, and the
thread of the file lets go of it when it has left its loop; `openReaders` counts the readers that
are open.

Whoever closes a file or lets go of a scan cancels the channel to its thread and waits for the end
of that thread. A thread may also fail to start. If it is the thread of an included file, this ends
the scan with an error; if it is the thread of the root or the scanning thread, the scan does not
start, and the call that should start it closes what it has opened.
-/

namespace SourceSplice.Scanner

/-- Opens a file beside so many open readers: what reading it gives, and how many are open then. -/
def openCounted (files : FileSystem) (path : String) (openReaders : Nat) :
    Except Fault (List (Except Fault String)) × Nat :=
  match files.outcomes path with
  | .ok pending => (.ok pending, openReaders + 1)
  | .error fault => (.error fault, openReaders)

/-- A store of files in memory counts its readers in this way. -/
theorem openCounted_fileSystem (m : MemoryStore) (path : String) :
    openCounted m.fileSystem path m.openReaders =
      match m.openReader path with
      | .ok (reader, m) => (.ok (Reader.ofBytes reader.rest).outcomes, m.openReaders)
      | .error fault => (.error fault, m.openReaders) := by
  simp only [openCounted, FileSystem.outcomes, MemoryStore.fileSystem, MemoryStore.openReader]
  cases m.content? path <;> rfl

/-- Where the thread of an open file is. -/
inductive ReaderAt where
  /-- Before it reads a line. -/
  | reading
  /-- Before it puts what reading gave into its channel. -/
  | offering (x : Except Fault String)
  /-- Before it learns whether that was taken. -/
  | settling (x : Except Fault String)
  /-- Before it looks whether its channel is cancelled. -/
  | checking
  /-- Out of the loop, and still with its reader. -/
  | leaving
  /-- Without its reader, before it closes its channel. -/
  | closing
  | ended

/-- An open file: what the scanning thread knows of it, and its thread. -/
structure OpenFile where
  path : String
  /-- The number of its reader, which no other reader of the scan has. -/
  reader : Nat
  /-- The number of lines that the scanning thread has taken. -/
  linesRead : Nat := 0
  /-- What its thread will still read. -/
  pending : List (Except Fault String)
  position : ReaderAt := .reading
  out : Channel (Except Fault String) := {}

namespace OpenFile

/-- The file after its thread has read a line, or has found that there is none. -/
def read (f : OpenFile) : OpenFile :=
  match f.pending with
  | [] => { f with position := .leaving }
  | x :: pending => { f with pending, position := .offering x }

/-- The file after its thread has put what reading gave into its channel. -/
def offer (f : OpenFile) (x : Except Fault String) : OpenFile :=
  match f.out.offer x with
  | .ok out => { f with out, position := .settling x }
  | .error _ => { f with position := .leaving }

/-- The file after its thread has learned whether that was taken. Nothing is read after a fault. -/
def settle (f : OpenFile) (x : Except Fault String) : OpenFile :=
  match f.out.settle, x with
  | (.ok _, out), .ok _ => { f with out, position := .checking }
  | (_, out), _ => { f with out, position := .leaving }

/-- The file after its thread has looked whether its channel is cancelled. -/
def check (f : OpenFile) : OpenFile :=
  { f with position := if f.out.cancelled then .leaving else .reading }

/-- One step of the thread of a file, apart from letting go of its reader. -/
inductive Step : OpenFile → OpenFile → Prop where
  | read (f : OpenFile) : f.position = .reading → Step f f.read
  | offer (f : OpenFile) (x : Except Fault String) :
    f.position = .offering x → f.out.senderWaits = false → Step f (f.offer x)
  | settle (f : OpenFile) (x : Except Fault String) :
    f.position = .settling x → f.out.senderWaits = false → Step f (f.settle x)
  | check (f : OpenFile) : f.position = .checking → Step f f.check
  | close (f : OpenFile) :
    f.position = .closing → Step f { f with out := f.out.close, position := .ended }

end OpenFile

/-- Where the scanning thread is. -/
inductive ScannerAt where
  /-- Before it looks whether its channel is cancelled. -/
  | checking
  /-- Before it takes a line of the current file. -/
  | drawing
  /-- The thread of the current file has closed its channel and is about to end. -/
  | joining
  /-- Before it acts on a line of the current file. -/
  | acting (text : String)
  /-- A file was opened and has no thread yet. -/
  | entering (file : OpenFile)
  /-- Before it puts an item into its channel. -/
  | offering (x : ScanItem)
  /-- Before it learns whether its item was taken. -/
  | settling (x : ScanItem)
  /-- Out of the loop, with the files that are still on the stack. -/
  | leaving
  /-- It has given up the lowest file of the stack and waits for the end of its thread. -/
  | awaiting
  | ended

/-- Where the consumer is. -/
inductive ClientAt where
  /-- The call that starts the scan has not returned. -/
  | starting
  /-- Between two draws. -/
  | idle
  /-- Before it takes an item. -/
  | receiving
  /-- The scanning thread has closed its channel and is about to end. -/
  | joining
  /-- It has let go, or has given up starting the scan, and waits until everything is closed. -/
  | awaiting
  | gone

/-- The threads of a scan and its consumer. -/
structure Threads where
  files : FileSystem
  options : ScanOptions
  /-- The open files that have a thread, the current one first. -/
  stack : List OpenFile
  scanning : ScannerAt
  out : Channel ScanItem := {}
  consumer : ClientAt := .starting
  /-- Whether the consumer has met the end. -/
  exhausted : Bool := false
  /-- What the draws of the consumer gave, the first one first. -/
  seen : List (Option ScanItem) := []
  /-- The number of open readers, with those that were open before the scan. -/
  openReaders : Nat
  /-- The number of readers that the scan has opened. -/
  opened : Nat
  /-- The numbers of the readers that were let go, the first one first. -/
  released : List Nat := []

namespace Threads

/-- A scan after the call that starts it has opened the root file, or the error that the call
returns; so many readers were open before, and so many are then. -/
def start (files : FileSystem) (options : ScanOptions) (root : String) (openBefore : Nat) :
    Except ScanError Threads × Nat :=
  match openCounted files root openBefore with
  | (.error fault, openReaders) => (.error (.cannotOpen root none fault), openReaders)
  | (.ok pending, openReaders) =>
    (.ok
      { files, options
        stack := []
        scanning := .entering { path := root, reader := 0, pending }
        openReaders
        opened := 1 }, openReaders)

/-- The number of files that are open or being opened. -/
def heldFiles (t : Threads) : Nat :=
  t.stack.length + if t.scanning matches .entering _ then 1 else 0

/-- The threads after the scanning thread has taken something from the current file. -/
def draw (t : Threads) (top : OpenFile) (below : List OpenFile) : Threads :=
  match top.out.take with
  | (.ok (.ok text), out) =>
    let top := { top with out, linesRead := top.linesRead + 1 }
    { t with stack := top :: below, scanning := .acting text }
  | (.ok (.error fault), out) =>
    let e := ScanError.cannotRead top.path top.linesRead fault
    { t with stack := { top with out } :: below, scanning := .offering (.error e) }
  | (.error _, _) => { t with scanning := .joining }

/-- The threads after the scanning thread has returned from the current file. -/
def leaveFile (t : Threads) (below : List OpenFile) : Threads :=
  match below with
  | [] => { t with stack := [], scanning := .leaving }
  | parent :: _ =>
    { t with stack := below, scanning := .offering (.ok (.fileChange parent.path)) }

/-- The threads after the scanning thread has acted on an include. -/
def enter (t : Threads) (path : String) (site : Site) : Threads :=
  if t.options.detectCycles ∧ path ∈ t.stack.map OpenFile.path then
    { t with scanning := .offering (.error (.cycle path site)) }
  else if t.options.maxIncludeDepth < t.stack.length then
    { t with scanning := .offering (.error (.tooDeep path site t.options.maxIncludeDepth)) }
  else
    match openCounted t.files path t.openReaders with
    | (.error fault, openReaders) =>
      { t with
        scanning := .offering (.error (.cannotOpen path (some site) fault))
        openReaders }
    | (.ok pending, openReaders) =>
      { t with
        scanning := .entering { path, reader := t.opened, pending }
        openReaders
        opened := t.opened + 1 }

/-- The threads after the scanning thread has acted on the line that it took last. -/
def act (t : Threads) (text : String) (top : OpenFile) : Threads :=
  let site : Site := ⟨top.path, top.linesRead⟩
  match Directive.parse text with
  | .ok .plain => { t with scanning := .offering (.ok (.line text top.linesRead)) }
  | .ok (.inclusion path) => t.enter path site
  | .error cause => { t with scanning := .offering (.error (.malformed site text cause)) }

/-- The threads after the scanning thread has put an item into its channel. -/
def offer (t : Threads) (x : ScanItem) : Threads :=
  match t.out.offer x with
  | .ok out => { t with out, scanning := .settling x }
  | .error _ => { t with scanning := .leaving }

/-- The threads after the scanning thread has learned whether its item was taken. Nothing is
scanned after an error. -/
def settle (t : Threads) (x : ScanItem) : Threads :=
  match t.out.settle, x with
  | (.ok _, out), .ok _ => { t with out, scanning := .checking }
  | (_, out), _ => { t with out, scanning := .leaving }

/-- The threads after a reader was let go. -/
def release (t : Threads) (reader : Nat) : Threads :=
  { t with openReaders := t.openReaders - 1, released := t.released ++ [reader] }

/-- The threads after starting the scan was given up. -/
def abandon (t : Threads) : Threads :=
  { t with scanning := .leaving, out := t.out.cancel, consumer := .awaiting }

/-- One step of the scanning thread. -/
inductive ScanStep : Threads → Threads → Prop where
  | check (t : Threads) :
    t.scanning = .checking →
      ScanStep t { t with scanning := if t.out.cancelled then .leaving else .drawing }
  | draw (t : Threads) (top : OpenFile) (below : List OpenFile) :
    t.scanning = .drawing → t.stack = top :: below → top.out.receiverWaits = false →
      ScanStep t (t.draw top below)
  | join (t : Threads) (top : OpenFile) (below : List OpenFile) :
    t.scanning = .joining → t.stack = top :: below → top.position = .ended →
      ScanStep t (t.leaveFile below)
  | act (t : Threads) (text : String) (top : OpenFile) (below : List OpenFile) :
    t.scanning = .acting text → t.stack = top :: below → ScanStep t (t.act text top)
  | enter (t : Threads) (file : OpenFile) :
    t.scanning = .entering file →
      ScanStep t
        { t with
          stack := file :: t.stack
          scanning := .offering (.ok (.fileChange file.path)) }
  | offer (t : Threads) (x : ScanItem) :
    t.scanning = .offering x → t.out.senderWaits = false → ScanStep t (t.offer x)
  | settle (t : Threads) (x : ScanItem) :
    t.scanning = .settling x → t.out.senderWaits = false → ScanStep t (t.settle x)
  | giveUp (t : Threads) (above : List OpenFile) (file : OpenFile) :
    t.scanning = .leaving → t.stack = above ++ [file] →
      ScanStep t
        { t with
          stack := above ++ [{ file with out := file.out.cancel }]
          scanning := .awaiting }
  | await (t : Threads) (above : List OpenFile) (file : OpenFile) :
    t.scanning = .awaiting → t.stack = above ++ [file] → file.position = .ended →
      ScanStep t { t with stack := above, scanning := .leaving }
  | close (t : Threads) :
    t.scanning = .leaving → t.stack = [] →
      ScanStep t { t with out := t.out.close, scanning := .ended }

/-- One step of one of the threads or of the consumer. -/
inductive Step : Threads → Threads → Prop where
  | scan {t u : Threads} : ScanStep t u → Step t u
  | file (t : Threads) (above below : List OpenFile) {f g : OpenFile} :
    t.stack = above ++ f :: below → OpenFile.Step f g →
      Step t { t with stack := above ++ g :: below }
  /-- The thread of a file lets go of its reader. -/
  | release (t : Threads) (above below : List OpenFile) (f : OpenFile) :
    t.stack = above ++ f :: below → f.position = .leaving →
      Step t { t.release f.reader with stack := above ++ { f with position := .closing } :: below }
  /-- The thread of an included file does not start. -/
  | notEntered (t : Threads) (file : OpenFile) (fault : Fault) :
    t.scanning = .entering file → t.consumer ≠ .starting →
      Step t
        { t.release file.reader with scanning := .offering (.error (.notStarted "reader" fault)) }
  /-- The thread of the root file does not start. -/
  | rootNotEntered (t : Threads) (file : OpenFile) :
    t.scanning = .entering file → t.consumer = .starting →
      Step t (t.release file.reader).abandon
  /-- The scanning thread does not start. -/
  | notStarted (t : Threads) (x : ScanItem) :
    t.scanning = .offering x → t.consumer = .starting → Step t t.abandon
  | started (t : Threads) :
    t.consumer = .starting → t.stack ≠ [] → Step t { t with consumer := .idle }
  | beginNext (t : Threads) :
    t.consumer = .idle → t.exhausted = false → Step t { t with consumer := .receiving }
  /-- After the end a draw gives nothing, at once. -/
  | nextAtEnd (t : Threads) :
    t.consumer = .idle → t.exhausted = true → Step t { t with seen := t.seen ++ [none] }
  | take (t : Threads) (x : ScanItem) (out : Channel ScanItem) :
    t.consumer = .receiving → t.out.receiverWaits = false → t.out.take = (.ok x, out) →
      Step t { t with out, consumer := .idle, seen := t.seen ++ [some x] }
  | meetEnd (t : Threads) (e : HandoffError) (out : Channel ScanItem) :
    t.consumer = .receiving → t.out.receiverWaits = false → t.out.take = (.error e, out) →
      Step t { t with consumer := .joining, exhausted := true }
  | join (t : Threads) :
    t.consumer = .joining → t.scanning = .ended →
      Step t { t with consumer := .idle, seen := t.seen ++ [none] }
  | letGo (t : Threads) :
    t.consumer = .idle → Step t { t with consumer := .awaiting, out := t.out.cancel }
  | await (t : Threads) :
    t.consumer = .awaiting → t.scanning = .ended → Step t { t with consumer := .gone }

/-- The states that threads can come to, in whatever order the steps are taken. -/
inductive Reaches : Threads → Threads → Prop where
  | refl (t : Threads) : Reaches t t
  | step {t u v : Threads} : Reaches t u → Step u v → Reaches t v

end Threads

end SourceSplice.Scanner
