import SourceSplice.Event
import SourceSplice.Feed
import SourceSplice.FileHandle
import SourceSplice.RunError
/-!
# The scanner

A scan reads the root file line by line, goes into every file that a line includes before it reads
on, and gives one event per step. The files that it is in the middle of form a stack. The first
error is the last thing that a scan gives.

`Scanner.next` is one step. `Scanner.effort` bounds the number of steps that are still to come,
since the limit on the include depth bounds the stack and every file has finitely many lines; so
`Scanner.run` carries every scan to its end.
-/

namespace SourceSplice

/-- How far a scan may go. -/
structure ScanOptions where
  /-- The number of files that may be stacked upon the root. -/
  maxIncludeDepth : Nat := 200
  /-- Whether a file on the stack may not be included again. -/
  detectCycles : Bool := true
  deriving DecidableEq, Repr

/-- What a scan gives: events and, as the last item, perhaps an error. -/
abbrev ScanItem := Except ScanError Event

/-- A scan under way. -/
structure Scanner where
  files : FileSystem
  options : ScanOptions
  root : String
  /-- Whether the scan has reported that it is in the root file. -/
  entered : Bool := false
  /-- The open files, the current one first and the root last. -/
  stack : List FileHandle
  filesOpened : Nat := 1
  /-- The largest number of files that were on the stack at a time. -/
  maxDepth : Nat := 1
  /-- The paths that the scan asked the file system to open, the latest first. -/
  requests : List String

namespace Scanner

def openRoot (files : FileSystem) (options : ScanOptions) (root : String) :
    Except ScanError Scanner :=
  match FileHandle.openFile files root none with
  | .ok handle => .ok { files, options, root, stack := [handle], requests := [root] }
  | .error e => .error e

/-- Starts a scan; the root must be a file. -/
def start (files : FileSystem) (options : ScanOptions) (root : String) :
    Except RunError Scanner :=
  if files.isFile root then
    match openRoot files options root with
    | .ok s => .ok s
    | .error e => .error (.scan e)
  else .error (.rootNotFound root)

/-- The paths that starting a scan asks to open. -/
def startRequests (files : FileSystem) (root : String) : List String :=
  if files.isFile root then [root] else []

/-- Gives an error as the last item: all files are closed. -/
def fail (s : Scanner) (e : ScanError) : Option ScanItem × Scanner :=
  (some (.error e), { s with stack := [] })

/-- Goes into the file that an include names. A cycle is reported in preference to the depth, and
the depth in preference to a file that does not open. -/
def enter (s : Scanner) (path : String) (site : Site) : Option ScanItem × Scanner :=
  if s.options.detectCycles && s.stack.any (·.path == path) then s.fail (.cycle path site)
  else if s.options.maxIncludeDepth < s.stack.length then
    s.fail (.tooDeep path site s.options.maxIncludeDepth)
  else
    let s := { s with requests := path :: s.requests }
    match FileHandle.openFile s.files path (some site) with
    | .error e => s.fail e
    | .ok handle =>
      let stack := handle :: s.stack
      (some (.ok (.fileChange handle.path)),
        { s with
          stack
          filesOpened := s.filesOpened + 1
          maxDepth := max s.maxDepth stack.length })

/-- Acts on a line of the current file. -/
def takeLine (s : Scanner) (text : String) (site : Site) : Option ScanItem × Scanner :=
  match Directive.parse text with
  | .ok .plain => (some (.ok (.line text site.line)), s)
  | .ok (.inclusion path) => s.enter path site
  | .error cause => s.fail (.malformed site text cause)

/-- The next item of a scan. At the end of a file the scan returns to the one that included it. -/
def next (s : Scanner) : Option ScanItem × Scanner :=
  match s.stack with
  | [] => (none, s)
  | top :: below =>
    if s.entered then
      match top.nextLine with
      | (none, _) =>
        (below.head?.map fun parent => .ok (.fileChange parent.path), { s with stack := below })
      | (some (.error e), _) => s.fail e
      | (some (.ok (text, number)), top) =>
        takeLine { s with stack := top :: below } text ⟨top.path, number⟩
    else (some (.ok (.fileChange top.path)), { s with entered := true })

instance : Feed Scanner ScanItem where
  next := next

/-- The number of readers that a scan holds open between two items. -/
def openReaders (s : Scanner) : Nat :=
  s.stack.foldr (fun h n => h.openReaders + n) 0

/-- Lets go of a scan, wherever it stands. -/
def letGo (s : Scanner) : Scanner :=
  { s with stack := s.stack.map FileHandle.close }

theorem openReaders_letGo (s : Scanner) : s.letGo.openReaders = 0 := by
  unfold openReaders letGo
  induction s.stack with
  | nil => rfl
  | cons h stack ih =>
    rw [List.map_cons, List.foldr_cons, ih]
    rfl

/-! ### The steps still to come -/

/-- The file that a line includes, if it includes one that opens. -/
def included? (files : FileSystem) : Except Fault String → Option (List (Except Fault String))
  | .ok text =>
    match Directive.parse text with
    | .ok (.inclusion path) => (files.outcomes path).toOption
    | _ => none
  | .error _ => none

/-- The steps that the rest of a file can take if so many more files may be stacked upon it. -/
def fileEffort (files : FileSystem) : (levels : Nat) → List (Except Fault String) → Nat
  | 0, pending => pending.length + 1
  | levels + 1, pending =>
    pending.foldr
      (fun x n => 1 + ((included? files x).map (fileEffort files levels)).getD 0 + n) 0 + 1

/-- The steps that the files of a stack can take under a limit on the include depth. -/
def stackEffort (files : FileSystem) (limit : Nat) : List FileHandle → Nat
  | [] => 0
  | top :: below => fileEffort files (limit - below.length) top.pending + stackEffort files limit below

/-- A bound on the number of items that a scan will still give. -/
def effort (s : Scanner) : Nat :=
  stackEffort s.files s.options.maxIncludeDepth s.stack + if s.entered then 0 else 1

theorem fileEffort_pos (files : FileSystem) (levels : Nat) (pending : List (Except Fault String)) :
    0 < fileEffort files levels pending := by
  cases levels <;> simp [fileEffort]

theorem fileEffort_lt_cons (files : FileSystem) (levels : Nat) (x : Except Fault String)
    (pending : List (Except Fault String)) :
    fileEffort files levels pending < fileEffort files levels (x :: pending) := by
  cases levels with
  | zero => simp [fileEffort]
  | succ levels =>
    simp only [fileEffort, List.foldr_cons]
    omega

theorem fileEffort_cons_included {files : FileSystem} {levels : Nat} {x : Except Fault String}
    {inner pending : List (Except Fault String)} (h : included? files x = some inner) :
    fileEffort files (levels + 1) (x :: pending) =
      1 + fileEffort files levels inner + fileEffort files (levels + 1) pending := by
  simp only [fileEffort, List.foldr_cons, h, Option.map_some, Option.getD_some]
  omega

theorem stackEffort_pos (files : FileSystem) (limit : Nat) (top : FileHandle)
    (below : List FileHandle) : 0 < stackEffort files limit (top :: below) := by
  have := fileEffort_pos files (limit - below.length) top.pending
  simp only [stackEffort]
  omega

theorem effort_fail (s : Scanner) (e : ScanError) :
    (s.fail e).2.effort = if s.entered then 0 else 1 :=
  Nat.zero_add _

theorem effort_takeLine_lt (s : Scanner) (top : FileHandle) (below : List FileHandle)
    (text : String) (site : Site) (hs : s.stack = top :: below) (old : FileHandle)
    (hold : old.pending = .ok text :: top.pending) :
    (s.takeLine text site).2.effort <
      stackEffort s.files s.options.maxIncludeDepth (old :: below) + if s.entered then 0 else 1 := by
  have hlt := fileEffort_lt_cons s.files (s.options.maxIncludeDepth - below.length) (.ok text)
    top.pending
  have hpos := stackEffort_pos s.files s.options.maxIncludeDepth old below
  unfold takeLine
  split
  · simp only [effort, hs, stackEffort, hold]
    omega
  · rename_i path hparse
    unfold enter
    split
    · rw [effort_fail]; omega
    · split
      · rw [effort_fail]; omega
      · rename_i hdeep
        simp only
        split
        · rw [effort_fail]; simp only; omega
        · rename_i handle hopen
          have hin : included? s.files (.ok text) = some handle.pending := by
            simp only [FileHandle.openFile] at hopen
            simp only [included?, hparse]
            cases ho : s.files.outcomes path with
            | ok pending => rw [ho] at hopen; simp only [Except.ok.injEq] at hopen; rw [← hopen]; rfl
            | error f => rw [ho] at hopen; cases hopen
          rw [hs, List.length_cons] at hdeep
          obtain ⟨levels, hl⟩ : ∃ levels, s.options.maxIncludeDepth - below.length = levels + 1 :=
            ⟨s.options.maxIncludeDepth - below.length - 1, by omega⟩
          have hcons := @fileEffort_cons_included s.files levels _ _ top.pending hin
          have hl' : s.options.maxIncludeDepth - (below.length + 1) = levels := by omega
          simp only [effort, hs, stackEffort, List.length_cons, hl, hl', hold, hcons]
          omega
  · rw [effort_fail]; omega

theorem effort_next_lt {s : Scanner} {x : ScanItem} (h : s.next.1 = some x) :
    s.next.2.effort < s.effort := by
  unfold next at h ⊢
  cases hstack : s.stack with
  | nil => rw [hstack] at h; simp at h
  | cons top below =>
    have hpos := stackEffort_pos s.files s.options.maxIncludeDepth top below
    cases hentered : s.entered with
    | false => simp [effort, hstack, hentered]
    | true =>
      simp only [if_true]
      obtain ⟨path, n, pending, e⟩ := top
      rcases pending with _ | ⟨fault | text, pending⟩
      · simp only [FileHandle.nextLine, effort, hstack, hentered, stackEffort]
        have := fileEffort_pos s.files (s.options.maxIncludeDepth - below.length) []
        omega
      · simp only [FileHandle.nextLine, effort_fail, hentered]
        simp only [effort, hstack, hentered, if_true]
        omega
      · simp only [FileHandle.nextLine]
        have := effort_takeLine_lt
          { s with stack := ⟨path, n + 1, pending, e⟩ :: below } ⟨path, n + 1, pending, e⟩ below text
          ⟨path, n + 1⟩ rfl ⟨path, n, .ok text :: pending, e⟩ rfl
        simpa [effort, hstack, hentered] using this

/-! ### Whole scans -/

/-- All the items that a scan still gives, with its state at the end. -/
def run (s : Scanner) : List ScanItem × Scanner :=
  match s.next, @effort_next_lt s with
  | (none, last), _ => ([], last)
  | (some x, rest), smaller =>
    have := smaller rfl
    let (xs, last) := run rest
    (x :: xs, last)
termination_by s.effort

theorem run_of_next_none {s last : Scanner} (h : s.next = (none, last)) : s.run = ([], last) := by
  rw [run]
  split
  · rename_i h' _
    rw [(Prod.mk.inj (h'.symm.trans h)).2]
  · rename_i h' _
    cases h'.symm.trans h

theorem run_of_next_some {s rest : Scanner} {x : ScanItem} (h : s.next = (some x, rest)) :
    s.run = (x :: rest.run.1, rest.run.2) := by
  rw [run]
  split
  · rename_i h' _
    cases h'.symm.trans h
  · rename_i h' _
    cases h'.symm.trans h
    rfl

/-- All the items that a scan still gives. -/
def items (s : Scanner) : List ScanItem :=
  s.run.1

/-- The next item that is to be kept, with the state behind it. -/
def nextKept (keep : ScanItem → Bool) (s : Scanner) : Option ScanItem × Scanner :=
  match s.next, @effort_next_lt s with
  | (none, last), _ => (none, last)
  | (some x, rest), smaller =>
    have := smaller rfl
    if keep x then (some x, rest) else nextKept keep rest
termination_by s.effort

end Scanner

end SourceSplice
