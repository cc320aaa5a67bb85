import SourceSplice.Fault
/-!
# Writers

A writer takes bytes until it fails. `Sink` is the plain writer: it keeps what it takes, may stop
taking bytes after a given number of them, and counts how often it was flushed.
-/

namespace SourceSplice

/-- Something that bytes are written to. -/
class Writer (ω : Type) where
  /-- Writes bytes, all of them unless there is a fault. -/
  write : ω → List UInt8 → Option Fault × ω
  /-- Makes sure that everything written has arrived. -/
  flush : ω → Option Fault × ω

def utf8Bytes (s : String) : List UInt8 :=
  s.toUTF8.toList

namespace Writer

/-- Writes a text and then a line feed, as two writes. -/
def writeLine {ω : Type} [Writer ω] (w : ω) (text : String) : Option Fault × ω :=
  match write w (utf8Bytes text) with
  | (some fault, w) => (some fault, w)
  | (none, w) => write w [10]

end Writer

/-- A writer that keeps what it takes. -/
structure Sink where
  /-- The number of bytes that it still takes, if that is limited. A write that needs more takes
  up what room there is and fails. -/
  room : Option Nat := none
  /-- Whether flushing fails; it is counted all the same. -/
  flushFails : Bool := false
  /-- The bytes taken, the latest first. -/
  taken : List UInt8 := []
  /-- How often the sink was flushed. -/
  flushes : Nat := 0
  deriving DecidableEq, Repr

namespace Sink

/-- The bytes taken, in the order in which they were written. -/
def content (s : Sink) : List UInt8 :=
  s.taken.reverse

/-- The fault of a sink that takes no more, or that cannot be flushed. -/
def fault : Fault :=
  .reported .other "sink refused the request"

def write (s : Sink) (bytes : List UInt8) : Option Fault × Sink :=
  match s.room with
  | none => (none, { s with taken := bytes.reverseAux s.taken })
  | some room =>
    if bytes.length ≤ room then
      (none, { s with room := some (room - bytes.length), taken := bytes.reverseAux s.taken })
    else (some fault, { s with room := some 0, taken := (bytes.take room).reverseAux s.taken })

def flush (s : Sink) : Option Fault × Sink :=
  (if s.flushFails then some fault else none, { s with flushes := s.flushes + 1 })

instance : Writer Sink where
  write := write
  flush := flush

end Sink

end SourceSplice
