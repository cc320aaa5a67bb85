import SourceSplice.EventStream
import SourceSplice.Tap
/-!
# Pipelines

A scan with up to two taps on its items: one writes the text of every plain line, the other writes
every event as a record. The taps see the items in this order and hand them on unchanged.
-/

namespace SourceSplice

/-- The writers that a pipeline is to feed. -/
structure PrintTaps (ω : Type) where
  source : Option ω := none
  events : Option ω := none

namespace PrintTaps

def isEmpty {ω : Type} (t : PrintTaps ω) : Bool :=
  t.source.isNone && t.events.isNone

/-- The diagnostic form: which writers there are. -/
def debug {ω : Type} (t : PrintTaps ω) : String :=
  "PrintTaps \x7b source: " ++ toString t.source.isSome ++ ", events: "
    ++ toString t.events.isSome ++ " \x7d"

end PrintTaps

/-- The text that an item adds to the source text. -/
def sourceProjection : ScanItem → Option String
  | .ok e => e.sourceLine?
  | .error _ => none

/-- The record that an item adds to the event log. -/
def eventProjection : ScanItem → Option String
  | .ok e => some e.json
  | .error _ => none

/-- The taps on a scan. -/
structure ScanTaps (ω : Type) where
  source : Option (Tap ScanItem ω)
  events : Option (Tap ScanItem ω)

/-- The taps that feed the writers. -/
def PrintTaps.onScan {ω : Type} (taps : PrintTaps ω) : ScanTaps ω where
  source := taps.source.map fun writer => { project := sourceProjection, writer }
  events := taps.events.map fun writer => { project := eventProjection, writer }

/-- A scan with taps. -/
structure Pipeline (ω : Type) extends ScanTaps ω where
  scanner : Scanner

namespace Pipeline

variable {ω : Type}

def ofScanner (scanner : Scanner) (taps : PrintTaps ω) : Pipeline ω :=
  { taps.onScan with scanner }

def start (files : FileSystem) (options : ScanOptions) (root : String) (taps : PrintTaps ω) :
    Except RunError (Pipeline ω) :=
  (Scanner.start files options root).map fun scanner => ofScanner scanner taps

/-- The name of the last stage. -/
def name (p : Pipeline ω) : String :=
  if p.source.isSome || p.events.isSome then "tap" else "scanner"

/-- The number of readers that are open behind a pipeline. -/
def openReaders (p : Pipeline ω) : Nat :=
  p.scanner.openReaders

def finish [Writer ω] (p : Pipeline ω) : Pipeline ω :=
  { p with source := p.source.map Tap.finish, events := p.events.map Tap.finish }

/-- The first `n` items that come out of a pipeline, with the pipeline after its client has let
go. -/
def take [Writer ω] (p : Pipeline ω) (n : Nat) : List ScanItem × Pipeline ω :=
  let (items, scanner) := Feed.take p.scanner n
  let source := p.source.map fun tap => (tap.passAll items).2
  let events := p.events.map fun tap => (tap.passAll items).2
  (items, finish { scanner := scanner.letGo, source, events })

/-- Lets items pass a tap, if there is one, and ends its stage. -/
def passAll [Writer ω] (tap : Option (Tap ScanItem ω)) (items : List ScanItem) :
    List ScanItem × Option (Tap ScanItem ω) :=
  match tap with
  | none => (items, none)
  | some tap =>
    let (items, tap) := tap.passAll items
    (items, some tap.finish)

/-- All the items that come out of a pipeline, with the pipeline at its end. -/
def run [Writer ω] (p : Pipeline ω) : List ScanItem × Pipeline ω :=
  let (items, scanner) := p.scanner.run
  let (items, source) := passAll p.source items
  let (items, events) := passAll p.events items
  (items, { scanner, source, events })

/-- What draining items comes to: the number of events or the first error. -/
def outcome (items : List ScanItem) : Except RunError Nat :=
  (Feed.tryCount items).mapError .scan

/-- Drains a pipeline up to the first error: the number of events or that error, with the
pipeline at its end. -/
def tryDrain [Writer ω] (p : Pipeline ω) : Except RunError Nat × Pipeline ω :=
  (outcome p.run.1, p.run.2)

end Pipeline

end SourceSplice
