import SourceSplice.FileSystem.Memory
/-!
# Files that misbehave

Files in memory together with a plan of what goes wrong with them: a file that does not open,
that comes in small pieces, whose reading fails part of the way, whose first read is interrupted,
or that does not count as a file. The plan goes by the path exactly as it is spelled when the
file is opened, while the contents go by the normalized path. A new content under a path leaves the
plan for the path as it is, and a new plan takes the place of the whole former one.
-/

namespace SourceSplice

/-- What goes wrong with a file. -/
structure FaultPlan where
  openFault : Option Fault := none
  /-- The most bytes that one read hands out. -/
  chunk : Option Nat := none
  /-- The number of bytes after which reading fails, and the fault. -/
  readFault : Option (Nat × Fault) := none
  /-- Whether the first read is interrupted. -/
  interrupted : Bool := false
  /-- Whether the path counts as something other than a file. -/
  notAFile : Bool := false
  deriving DecidableEq, Repr

/-- A list in pieces of `n` elements, with the remainder as the last one. -/
def pieces {α : Type} : (n : Nat) → List α → List (List α)
  | 0, _ => []
  | _ + 1, [] => []
  | n + 1, a :: l => (a :: l.take n) :: pieces (n + 1) (l.drop n)
termination_by _ l => l.length
decreasing_by
  simp only [List.length_drop, List.length_cons]
  omega

namespace FaultPlan

/-- A reader that follows a plan. A reader that hands out no bytes at a time looks like one at its
end. A fault beyond the end never arises. -/
def reader (p : FaultPlan) (content : List UInt8) : Reader :=
  let content := if p.chunk = some 0 then [] else content
  let (content, fault) :=
    match p.readFault with
    | some (n, fault) =>
      if n ≤ content.length then (content.take n, some fault) else (content, none)
    | none => (content, none)
  let parts :=
    match p.chunk with
    | some n => pieces n content
    | none => [content]
  { deliveries := (if p.interrupted then [.interrupted] else []) ++ parts.map .bytes
    fault }

end FaultPlan

/-- Files in memory with the plans for some paths. -/
structure FaultyStore where
  store : MemoryStore := {}
  /-- Plans by path, the last made first. -/
  plans : List (String × FaultPlan) := []
  deriving DecidableEq, Repr

namespace FaultyStore

/-- The plan for a path as it is spelled; without one nothing goes wrong. -/
def plan (s : FaultyStore) (path : String) : FaultPlan :=
  (s.plans.lookup path).getD {}

/-- Adds a file and the plan for its path. A plan in which nothing goes wrong leaves a former one
in force. -/
def insert (s : FaultyStore) (path : String) (content : List UInt8) (plan : FaultPlan) :
    FaultyStore where
  store := s.store.insert path content
  plans := if plan = {} then s.plans else (path, plan) :: s.plans

def openFile (s : FaultyStore) (path : String) : Except Fault Reader :=
  let plan := s.plan path
  match plan.openFault with
  | some fault => .error fault
  | none => (s.store.openReader path).map fun r => plan.reader r.1.rest

def fileSystem (s : FaultyStore) : FileSystem where
  isFile path := !(s.plan path).notAFile && s.store.isFile path
  openFile := s.openFile

end FaultyStore

end SourceSplice
