import SourceSplice.Generator.Network
/-!
# Networks behind a consumer that looks ahead

A consumer may draw an item only to look at it: then the item is held back for the draw that follows.
Beside the network, the state has what is held back, what the consumer was given, and how many items
were taken out of the channel of each thread.
-/

namespace SourceSplice.Generator

variable {α ω : Type}

/-- Whether an item was taken out of the channel of a thread from one state of it to the next. If the
thread takes an item back it is no longer waiting for its reader. -/
def Thread.handedOver (t t' : Thread α ω) : Bool :=
  t.out.slot.isSome && t'.out.slot.isNone && t'.position matches .settling

/-- The numbers of items taken out of the channels of threads, after a further step. -/
def countHandedOver : List (Thread α ω) → List (Thread α ω) → List Nat → List Nat
  | t :: ts, t' :: ts', k :: ks => (k + (t.handedOver t').toNat) :: countHandedOver ts ts' ks
  | _, _, ks => ks

/-- A network with a consumer that may look ahead. -/
structure Lookahead (α ω : Type) extends Peekable (Network α ω) α where
  /-- Whether the draw under way, or else the next one, is only for looking. -/
  looking : Bool := false
  /-- The items that the consumer was given, the first one first. -/
  given : List α := []
  /-- The number of items that were taken out of the channel of each thread, the last thread first. -/
  handedOver : List Nat

namespace Lookahead

def start (source : Source α) (stages : List (Stage α ω)) : Lookahead α ω where
  inner := .start source stages
  handedOver := List.replicate (stages.length + 1) 0

/-- The state after a step of the network. -/
def onto (w : Lookahead α ω) (n : Network α ω) : Lookahead α ω :=
  { w with inner := n, handedOver := countHandedOver w.inner.threads n.threads w.handedOver }

/-- The state after a draw came to something. That the chain broke off is not held back. -/
def receive (w : Lookahead α ω) : Option (Except String α) → Lookahead α ω
  | none => if w.looking then { w with cached := some none } else w
  | some (.ok x) =>
    if w.looking then { w with cached := some (some x) } else { w with given := w.given ++ [x] }
  | some (.error _) => w

/-- What each thread got from the one before it, the last thread first, and the first one from the
source. -/
def got (w : Lookahead α ω) : List Nat :=
  w.handedOver.tail ++ [w.inner.pulled]

/-- The number of items that the consumer took, with one that is held back. -/
def taken (w : Lookahead α ω) : Nat :=
  w.given.length + w.held.length

/-- One step of one of the threads or of the consumer. -/
inductive Step [Writer ω] : Lookahead α ω → Lookahead α ω → Prop where
  /-- The consumer makes up its mind what its next draw is for. -/
  | choose (w : Lookahead α ω) (looking : Bool) :
    w.inner.consumer = .idle → Step w { w with looking }
  /-- A step of the network by which no draw comes to anything. The network is not asked for an item
  while one is held back. -/
  | inside (w : Lookahead α ω) {n : Network α ω} :
    w.inner.Step n → n.seen = w.inner.seen →
      (w.inner.consumer = .idle → n.consumer = .receiving → w.cached = none) → Step w (w.onto n)
  | draws (w : Lookahead α ω) {n : Network α ω} (x : Option (Except String α)) :
    w.inner.Step n → n.seen = w.inner.seen ++ [x] → w.cached = none →
      Step w ((w.onto n).receive x)
  /-- A draw of what is held back. -/
  | heldBack (w : Lookahead α ω) (x : Option α) :
    w.inner.consumer = .idle → w.cached = some x →
      Step w { w with cached := none, given := w.given ++ x.toList }

/-- The states that one can come to, in whatever order the steps are taken. -/
inductive Reaches [Writer ω] : Lookahead α ω → Lookahead α ω → Prop where
  | refl (w : Lookahead α ω) : Reaches w w
  | step {w v u : Lookahead α ω} : Reaches w v → Step v u → Reaches w u

end Lookahead

end SourceSplice.Generator
