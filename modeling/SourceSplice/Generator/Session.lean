import SourceSplice.Generator.Client
import SourceSplice.Generator.Integer
/-!
# Sessions with integer chains

One client's dealings with a chain of integer stages from its start to the end of everything, and
what can be said about the stages afterwards. A stage works ahead of its consumer by up to one
item, so how much was drawn from the source and written by taps is certain only if the client has
met the end and no stage broke off.
-/

namespace SourceSplice.Integer

/-- A client's dealings with a chain. -/
structure Session where
  /-- The client, until it uses up the rest or lets go. -/
  client : Option (GeneratorClient Int64 Sink)
  /-- The chain as the client last had it. -/
  chain : Chain Int64 Sink
  origin : SourceSpec
  specs : List StageSpec := []
  /-- Whether the client has met the end. -/
  metEnd : Bool := false
  /-- Whether the client was told that a stage or the source broke off. -/
  broke : Bool := false
  /-- The number of items that the client got, lost or holds back. -/
  received : Nat := 0

namespace Session

/-- A session with a bare source. -/
def start (name : String) (origin : SourceSpec) : Session where
  client := some (.bare { source := origin.source name })
  chain := { source := origin.source name }
  origin

/-- A session whose client is in this state. -/
def withClient (s : Session) (client : GeneratorClient Int64 Sink) : Session :=
  { s with client := some client, chain := client.chain }

/-- Takes note of draws: how many were asked for and what they came to. -/
def account (s : Session) (asked : Nat) (d : Drawn Int64) : Session :=
  { s with
    received := s.received + d.items.length
    broke := s.broke || d.broke.isSome
    metEnd := s.metEnd || (d.items.length < asked && d.broke.isNone) }

def put (s : Session) (spec : StageSpec) : Option Session :=
  s.client.map fun g =>
    { s.withClient (g.put spec.stage) with specs := spec :: s.specs }

def take (s : Session) (n : Nat) : Option (Drawn Int64 × Session) :=
  s.client.map fun g =>
    let (d, g) := g.take n
    (d, (s.withClient g).account n d)

def collect (s : Session) : Option (Drawn Int64 × Session) :=
  s.client.map fun g =>
    let (d, g) := g.collect
    (d, (s.withClient g).account (d.items.length + 1) d)

def drain (s : Session) : Option (Drawn Int64 × Session) :=
  s.collect.map fun r => (r.1, { r.2 with client := none })

def drop (s : Session) : Option Session :=
  s.client.map fun _ => { s with client := none }

def peek (s : Session) : Option (Option (Except String Int64) × Session) := do
  let (x, g) ← (← s.client).peek?
  let s := s.withClient g
  match x with
  | none => return (none, { s with metEnd := true })
  | some (.ok x) => return (some (.ok x), s)
  | some (.error text) => return (some (.error text), { s with broke := true })

def hasCached (s : Session) : Option Bool := do
  (← s.client).hasCached?

def intoPeekable (s : Session) : Option Session := do
  return s.withClient (← (← s.client).intoPeekable?)

def heldBack (s : Session) : Nat :=
  match s.client with
  | some (.peekable p) => p.held.length
  | _ => 0

/-- Takes lookahead away; an item that is held back counts as received. -/
def intoInner (s : Session) : Option Session := do
  let g ← (← s.client).intoInner?
  return { s.withClient g with received := s.received + s.heldBack }

/-- The bare chain in the client's hands. -/
def bare? (s : Session) : Option (Chain Int64 Sink) :=
  match s.client with
  | some (.bare c) => some c
  | _ => none

/-- Whether it is certain what the stages did: the end was met and nothing broke off. -/
def settled (s : Session) : Bool :=
  s.metEnd && !s.broke

/-- The number of items drawn from the source, if it is certain. -/
def pulled? (s : Session) : Option Nat :=
  if s.settled then some s.chain.pulled else none

/-- Whether the stages have kept to the bound on how far they work ahead: one item each, the
source included. It is left open when stages drop items and after the end. -/
def bounded? (s : Session) : Option Bool :=
  if s.specs.any StageSpec.isSelection || s.metEnd || s.broke then none
  else some (s.chain.pulled ≤ s.received + s.heldBack + s.specs.length + 1)

/-- What each tap wrote and how often it was flushed, the first tap first, as far as it is certain
once the client has let go. -/
def tapResults (s : Session) : List (Option (List UInt8) × Option Nat) :=
  let uncertain := !s.settled &&
    (s.origin.canBreak || s.specs.any fun p => p.canBreak || p.isLimited)
  s.chain.letGo.taps.map fun t =>
    (if s.settled then some t.writer.content else none,
      if uncertain then none else some t.writer.flushes)

end Session

end SourceSplice.Integer
