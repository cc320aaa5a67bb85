import SourceSplice.Peekable
import SourceSplice.Scanner
/-!
# Streams of scan items

A client holds a scan in one of three forms: as the scanner itself, as a plain generator of
items, possibly behind filters, or with lookahead around any of these. `EventStream` is what
generators share: items that are delivered first, then those items of a scan that every filter
keeps. `ScanClient` is the client's side, with the operations that consume the stream.
-/

namespace SourceSplice

/-- The items of a scan behind filters. -/
structure EventStream where
  scanner : Scanner
  /-- Items that are delivered before the scan goes on; they have passed the filters. -/
  held : List ScanItem := []
  /-- The test that the filters apply to the items of the scan. -/
  keep : ScanItem → Bool := fun _ => true

namespace EventStream

def next (s : EventStream) : Option ScanItem × EventStream :=
  match s.held with
  | x :: held => (some x, { s with held })
  | [] =>
    let (x, scanner) := s.scanner.nextKept s.keep
    (x, { s with scanner })

instance : Feed EventStream ScanItem where
  next := next

/-- All the items that a stream still gives, with the stream at its end. -/
def run (s : EventStream) : List ScanItem × EventStream :=
  let (items, scanner) := s.scanner.run
  (s.held ++ items.filter s.keep, { s with scanner, held := [] })

def filter (s : EventStream) (keep : ScanItem → Bool) : EventStream :=
  { s with held := s.held.filter keep, keep := fun x => s.keep x && keep x }

/-- Lets go of a stream, with what is held and the scan behind it. -/
def letGo (s : EventStream) : EventStream :=
  { s with scanner := s.scanner.letGo, held := [] }

end EventStream

/-- The filters on scan items that a client can ask for; errors always pass. -/
inductive EventFilter where
  | lines
  | changes
  deriving DecidableEq, Repr

/-- Whether an item passes a filter. -/
def EventFilter.keep : EventFilter → ScanItem → Bool
  | _, .error _ => true
  | .lines, .ok e => e.sourceLine?.isSome
  | .changes, .ok e => e.changedFile?.isSome

structure EventGenerator where
  name : String
  exhausted : Bool := false
  events : EventStream

namespace EventGenerator

def next (g : EventGenerator) : Option ScanItem × EventGenerator :=
  let (x, events) := g.events.next
  (x, { g with events, exhausted := x.isNone || g.exhausted })

def debug (g : EventGenerator) : String :=
  "Generator \x7b name: " ++ Text.quoted g.name ++ ", exhausted: " ++ toString g.exhausted ++ " \x7d"

/-- The diagnostic form of a scanner, which wraps a generator. -/
def scannerDebug (g : EventGenerator) : String :=
  "FileScanner \x7b root: " ++ Text.quoted g.events.scanner.root ++ ", events: " ++ g.debug ++ " \x7d"

end EventGenerator

/-- A scan in the hands of a client. -/
inductive ScanClient where
  | scanner (g : EventGenerator)
  | generator (g : EventGenerator)
  | peekable (p : Peekable ScanClient ScanItem)

namespace ScanClient

def ofScanner (s : Scanner) : ScanClient :=
  .scanner { name := "scanner", events := { scanner := s } }

def next : ScanClient → Option ScanItem × ScanClient
  | .scanner g => (g.next.1, .scanner g.next.2)
  | .generator g => (g.next.1, .generator g.next.2)
  | .peekable ⟨inner, some x⟩ => (x, .peekable ⟨inner, none⟩)
  | .peekable ⟨inner, none⟩ =>
    let (x, inner) := next inner
    (x, .peekable ⟨inner, none⟩)

instance : Feed ScanClient ScanItem where
  next := next

theorem next_peekable (p : Peekable ScanClient ScanItem) :
    next (.peekable p) = (p.next.1, .peekable p.next.2) := by
  obtain ⟨inner, cached⟩ := p
  cases cached <;> simp [next, Peekable.next, Feed.next]

/-- Looks at the next item, if the form allows it. -/
def peek? : ScanClient → Option (Option ScanItem × ScanClient)
  | .peekable p => some (p.peek.1, .peekable p.peek.2)
  | _ => none

/-- Whether an item is held back, if the form allows the question. -/
def hasCached? : ScanClient → Option Bool
  | .peekable p => some p.hasCached
  | _ => none

/-- Puts lookahead around any form. -/
def intoPeekable (c : ScanClient) : ScanClient :=
  .peekable { inner := c }

def intoGenerator? : ScanClient → Option EventGenerator
  | .scanner g => some g
  | _ => none

/-- The items that are held back and the stream behind them, as one stream. -/
def stream : ScanClient → EventStream
  | .scanner g => g.events
  | .generator g => g.events
  | .peekable ⟨inner, cached⟩ =>
    let s := stream inner
    match cached with
    | some (some x) => { s with held := x :: s.held }
    | _ => s

def filter (c : ScanClient) (f : EventFilter) : ScanClient :=
  .generator { name := "filter", events := c.stream.filter f.keep }

/-- Draws items up to the first draw that gives none. -/
def drawAll : ScanClient → List ScanItem × ScanClient
  | .scanner g => (g.events.run.1, .scanner { g with events := g.events.run.2, exhausted := true })
  | .generator g => (g.events.run.1, .generator { g with events := g.events.run.2, exhausted := true })
  | .peekable ⟨inner, some none⟩ => ([], .peekable ⟨inner, none⟩)
  | .peekable ⟨inner, some (some x)⟩ =>
    let (xs, inner) := drawAll inner
    (x :: xs, .peekable ⟨inner, none⟩)
  | .peekable ⟨inner, none⟩ =>
    let (xs, inner) := drawAll inner
    (xs, .peekable ⟨inner, none⟩)

def letGo : ScanClient → ScanClient
  | .scanner g => .scanner { g with events := g.events.letGo }
  | .generator g => .generator { g with events := g.events.letGo }
  | .peekable ⟨inner, _⟩ => .peekable ⟨letGo inner, none⟩

/-- The number of readers that are open behind a client's stream. -/
def openReaders (c : ScanClient) : Nat :=
  c.stream.scanner.openReaders

end ScanClient

end SourceSplice
