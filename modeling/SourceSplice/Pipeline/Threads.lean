import SourceSplice.Generator.Network
import SourceSplice.Pipeline
/-!
# The threads of a pipeline

The stages of a pipeline run as threads, and a client drains it: it draws items until it gets an
error or meets the end, and then it lets go, which cancels the last stage and waits for its end.
-/

namespace SourceSplice

open Generator (Network)

variable {ω : Type}

/-- The tap that a stage is, if it is one. -/
def Stage.tap? {α : Type} : Stage α ω → Option (Tap α ω)
  | tap _ t => some t
  | _ => none

namespace Pipeline

/-- The taps of a pipeline, the first one first. -/
def taps (p : Pipeline ω) : List (Tap ScanItem ω) :=
  p.source.toList ++ p.events.toList

/-- The taps as stages; their projections never break off. -/
def stages (p : Pipeline ω) : List (Stage ScanItem ω) :=
  p.taps.map (.tap fun _ => none)

/-- The items of the scan, from a source that may do without looking whether it is still wanted. -/
def itemSource (p : Pipeline ω) (looks : Bool) : Source ScanItem :=
  { Source.ofList "scanner" p.scanner.items none with looks }

/-- The threads of a pipeline before any of them has taken a step. -/
def threads (p : Pipeline ω) (looks : Bool) : Network ScanItem ω :=
  Network.start (p.itemSource looks) p.stages.reverse

/-- The taps of threads, the first one first. -/
def tapsOf (n : Network ScanItem ω) : List (Tap ScanItem ω) :=
  n.stages.filterMap Stage.tap?

/-- What draining has come to after these draws, if it is over: the number of events or the first
error. -/
def drained : List (Option (Except String ScanItem)) → Option (Except RunError Nat)
  | [] => none
  | none :: _ => some (.ok 0)
  | some (.ok (.error e)) :: _ => some (.error (.scan e))
  | some (.ok (.ok _)) :: draws => (drained draws).map fun r => r.map (· + 1)
  | some (.error _) :: _ => none

/-- One step of threads or of a consumer that drains them. -/
inductive DrainStep [Writer ω] : Network ScanItem ω → Network ScanItem ω → Prop where
  /-- As long as draining is not over, the consumer does not let go. -/
  | drawing {n m : Network ScanItem ω} :
    drained n.seen = none → Network.Step n m → m.consumer ≠ .awaiting → DrainStep n m
  /-- Once it is over, the consumer draws no more. -/
  | leaving {n m : Network ScanItem ω} :
    drained n.seen ≠ none → Network.Step n m → m.consumer ≠ .receiving → m.seen = n.seen →
      DrainStep n m

/-- So many steps of draining lead from one state of the threads to another. -/
inductive Drains [Writer ω] : Nat → Network ScanItem ω → Network ScanItem ω → Prop where
  | refl (n : Network ScanItem ω) : Drains 0 n n
  | step {k : Nat} {n m l : Network ScanItem ω} : Drains k n m → DrainStep m l → Drains (k + 1) n l

end Pipeline

end SourceSplice
