import SourceSplice.Generator.Chain
import SourceSplice.Handoff
/-!
# Networks of stages

A chain whose source and stages run as threads of their own, each of which hands its items over a
channel to the next one, and the last one to the consumer. A thread goes round in a loop: it looks
whether its channel is cancelled, gets an item, applies its stage, and hands over what comes out. Only
a source may do without the look.
When it leaves the loop it closes its channel, cancels the one before it, and waits for the end of
the thread there. A stage that breaks off leaves the loop at once, and so does every stage behind
it that gets to see this; it reaches the consumer in the place of an item.

A step is what one thread does while it alone has access to a channel. A thread that has to wait
takes no step until it no longer has to.
-/

namespace SourceSplice.Generator

/-- What a thread does for each item. -/
inductive Worker (α ω : Type) where
  /-- Draws items from a source; so many were drawn already. -/
  | source (s : Source α) (pulled : Nat)
  | stage (s : Stage α ω)

/-- Whether a thread looks if its channel is cancelled before it gets an item. -/
def Worker.looks {α ω : Type} : Worker α ω → Bool
  | .source s _ => s.looks
  | .stage _ => true

def Worker.stage? {α ω : Type} : Worker α ω → Option (Stage α ω)
  | .source _ _ => none
  | .stage s => some s

/-- Where a thread is. -/
inductive ThreadAt (α : Type) where
  /-- Before it looks whether its channel is cancelled. -/
  | checking
  /-- Before it gets an item. -/
  | pulling
  /-- The thread before it has closed its channel and is about to end. -/
  | joining
  /-- Before it applies its stage to an item. -/
  | holding (x : α)
  /-- Before it puts an item into its channel. -/
  | offering (x : α)
  /-- Before it learns whether its item was taken. -/
  | settling
  /-- Out of the loop; the text says how it broke off, if it did. -/
  | leaving (broke : Option String)
  /-- Its channel is closed, and the one before it is still to be cancelled. -/
  | releasing (broke : Option String)
  /-- It waits for the end of the thread before it. -/
  | awaiting (broke : Option String)
  | ended (broke : Option String)
  deriving DecidableEq, Repr

/-- A thread with the channel that it hands its items over. -/
structure Thread (α ω : Type) where
  worker : Worker α ω
  position : ThreadAt α := .checking
  out : Channel α := {}

namespace Thread

variable {α ω : Type}

/-- Whether a thread can go on with its channel, if that is what it is about to do. -/
def canGoOn (t : Thread α ω) : Prop :=
  t.out.senderWaits = false

/-- The thread after looking whether its channel is cancelled. -/
def check (t : Thread α ω) : Thread α ω :=
  { t with position := if t.out.cancelled && t.worker.looks then .leaving none else .pulling }

def draw (t : Thread α ω) (s : Source α) (pulled : Nat) : Thread α ω :=
  match Chain.draw s pulled with
  | (.item x, pulled) => { t with worker := .source s pulled, position := .offering x }
  | (.broke text, _) => { t with position := .leaving (some text) }
  | (_, _) => { t with position := .leaving none }

/-- The thread after applying its stage to an item. -/
def apply [Writer ω] (t : Thread α ω) (s : Stage α ω) (x : α) : Thread α ω :=
  match s.push x with
  | (.item y, s) => { t with worker := .stage s, position := .offering y }
  | (.dropped, s) => { t with worker := .stage s, position := .checking }
  | (.broke text, s) => { t with worker := .stage s, position := .leaving (some text) }

def offer (t : Thread α ω) (x : α) : Thread α ω :=
  match t.out.offer x with
  | .ok out => { t with out, position := .settling }
  | .error _ => { t with position := .leaving none }

/-- The thread after learning whether its item was taken. -/
def settle (t : Thread α ω) : Thread α ω :=
  match t.out.settle with
  | (.ok _, out) => { t with out, position := .checking }
  | (.error _, out) => { t with out, position := .leaving none }

/-- The thread after closing its channel. A stage that did not break off is ended first. -/
def close [Writer ω] (t : Thread α ω) (broke : Option String) : Thread α ω :=
  let out := t.out.close
  match t.worker, broke with
  | .source _ _, _ => { t with out, position := .ended broke }
  | .stage s, none => { worker := .stage s.finish, out, position := .releasing none }
  | .stage _, some _ => { t with out, position := .releasing broke }

/-- The thread after taking what the thread before it has put into its channel. -/
def received (t : Thread α ω) : Except HandoffError α → Thread α ω
  | .ok x => { t with position := .holding x }
  | .error _ => { t with position := .joining }

end Thread

/-- One step of one of some threads, the last of which comes first. -/
inductive ThreadStep {α ω : Type} [Writer ω] :
    List (Thread α ω) → List (Thread α ω) → Prop where
  | check (t : Thread α ω) (ts : List (Thread α ω)) :
    t.position = .checking → ThreadStep (t :: ts) (t.check :: ts)
  | draw (t : Thread α ω) (s : Source α) (pulled : Nat) (ts : List (Thread α ω)) :
    t.position = .pulling → t.worker = .source s pulled → ThreadStep (t :: ts) (t.draw s pulled :: ts)
  | pull (t u : Thread α ω) (s : Stage α ω) (ts : List (Thread α ω)) :
    t.position = .pulling → t.worker = .stage s → u.out.receiverWaits = false →
      ThreadStep (t :: u :: ts) (t.received u.out.take.1 :: { u with out := u.out.take.2 } :: ts)
  | join (t u : Thread α ω) (broke : Option String) (ts : List (Thread α ω)) :
    t.position = .joining → u.position = .ended broke →
      ThreadStep (t :: u :: ts) ({ t with position := .leaving broke } :: u :: ts)
  | apply (t : Thread α ω) (s : Stage α ω) (x : α) (ts : List (Thread α ω)) :
    t.position = .holding x → t.worker = .stage s → ThreadStep (t :: ts) (t.apply s x :: ts)
  | offer (t : Thread α ω) (x : α) (ts : List (Thread α ω)) :
    t.position = .offering x → t.canGoOn → ThreadStep (t :: ts) (t.offer x :: ts)
  | settle (t : Thread α ω) (ts : List (Thread α ω)) :
    t.position = .settling → t.canGoOn → ThreadStep (t :: ts) (t.settle :: ts)
  | close (t : Thread α ω) (broke : Option String) (ts : List (Thread α ω)) :
    t.position = .leaving broke → ThreadStep (t :: ts) (t.close broke :: ts)
  | release (t u : Thread α ω) (broke : Option String) (ts : List (Thread α ω)) :
    t.position = .releasing broke →
      ThreadStep (t :: u :: ts)
        ({ t with position := .awaiting broke } :: { u with out := u.out.cancel } :: ts)
  | await (t u : Thread α ω) (broke broke' : Option String) (ts : List (Thread α ω)) :
    t.position = .awaiting broke → u.position = .ended broke' →
      ThreadStep (t :: u :: ts) ({ t with position := .ended broke } :: u :: ts)
  /-- A step of a thread further in front. -/
  | before (t : Thread α ω) {ts us : List (Thread α ω)} :
    ThreadStep ts us → ThreadStep (t :: ts) (t :: us)

/-- Where the consumer is. -/
inductive ConsumerAt where
  /-- Between two draws. -/
  | idle
  /-- Before it takes an item. -/
  | receiving
  /-- The last thread has closed its channel and is about to end. -/
  | joining
  /-- It has let go and waits for the end of the last thread. -/
  | awaiting
  | gone
  deriving DecidableEq, Repr

/-- The threads of a chain and its consumer. -/
structure Network (α ω : Type) where
  /-- The threads, the last one first and the source at the end. -/
  threads : List (Thread α ω)
  consumer : ConsumerAt := .idle
  /-- Whether the consumer has met the end. -/
  exhausted : Bool := false
  /-- What the draws of the consumer gave, the first one first. -/
  seen : List (Option (Except String α)) := []

namespace Network

variable {α ω : Type}

/-- A network in which no thread has taken a step; its stages are given last one first. -/
def start (source : Source α) (stages : List (Stage α ω)) : Network α ω where
  threads := (stages.map fun s => { worker := .stage s }) ++ [{ worker := .source source 0 }]

def pulled (n : Network α ω) : Nat :=
  match n.threads.getLast? with
  | some { worker := .source _ pulled, .. } => pulled
  | _ => 0

/-- The stages as their threads have them, the first one first. -/
def stages (n : Network α ω) : List (Stage α ω) :=
  (n.threads.filterMap fun t => t.worker.stage?).reverse

/-- The number of items that the consumer took. -/
def taken (n : Network α ω) : Nat :=
  n.seen.countP fun x => x matches some (.ok _)

def Ended (n : Network α ω) : Prop :=
  ∀ t ∈ n.threads, ∃ broke, t.position = .ended broke

/-- One step of one of the threads or of the consumer. -/
inductive Step [Writer ω] : Network α ω → Network α ω → Prop where
  | thread (n : Network α ω) {ts : List (Thread α ω)} :
    ThreadStep n.threads ts → Step n { n with threads := ts }
  | beginNext (n : Network α ω) :
    n.consumer = .idle → n.exhausted = false → Step n { n with consumer := .receiving }
  /-- After the end a draw gives nothing, at once. -/
  | nextAtEnd (n : Network α ω) :
    n.consumer = .idle → n.exhausted = true → Step n { n with seen := n.seen ++ [none] }
  | take (n : Network α ω) (t : Thread α ω) (ts : List (Thread α ω)) (x : α) (out : Channel α) :
    n.consumer = .receiving → n.threads = t :: ts → t.out.receiverWaits = false →
      t.out.take = (.ok x, out) →
      Step n
        { n with
          threads := { t with out } :: ts
          consumer := .idle
          seen := n.seen ++ [some (.ok x)] }
  | meetEnd (n : Network α ω) (t : Thread α ω) (ts : List (Thread α ω)) (e : HandoffError)
      (out : Channel α) :
    n.consumer = .receiving → n.threads = t :: ts → t.out.receiverWaits = false →
      t.out.take = (.error e, out) →
      Step n { n with consumer := .joining, exhausted := true }
  | join (n : Network α ω) (t : Thread α ω) (ts : List (Thread α ω)) (broke : Option String) :
    n.consumer = .joining → n.threads = t :: ts → t.position = .ended broke →
      Step n { n with consumer := .idle, seen := n.seen ++ [broke.map .error] }
  | letGo (n : Network α ω) (t : Thread α ω) (ts : List (Thread α ω)) :
    n.consumer = .idle → n.threads = t :: ts →
      Step n { n with consumer := .awaiting, threads := { t with out := t.out.cancel } :: ts }
  | await (n : Network α ω) (t : Thread α ω) (ts : List (Thread α ω)) (broke : Option String) :
    n.consumer = .awaiting → n.threads = t :: ts → t.position = .ended broke →
      Step n { n with consumer := .gone }

/-- The networks that one can come to, in whatever order the steps are taken. -/
inductive Reaches [Writer ω] : Network α ω → Network α ω → Prop where
  | refl (n : Network α ω) : Reaches n n
  | step {n m k : Network α ω} : Reaches n m → Step m k → Reaches n k

end Network

end SourceSplice.Generator
