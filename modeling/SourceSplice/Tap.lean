import SourceSplice.Writer
/-!
# Taps

A tap writes one line for each item that passes it and hands the item on unchanged. Which text it
writes is its projection; an item without one writes nothing. A tap whose writer failed writes
nothing more. When its stage ends, a tap flushes its writer, unless that failed.
-/

namespace SourceSplice

/-- A writer beside a stream of items. -/
structure Tap (α ω : Type) where
  /-- The text that an item writes. -/
  project : α → Option String
  writer : ω
  /-- The fault that stopped the writing. -/
  failure : Option Fault := none
  /-- The fault of the final flush. -/
  flushFailure : Option Fault := none

namespace Tap

variable {α ω : Type} [Writer ω]

/-- Lets an item pass. -/
def pass (t : Tap α ω) (x : α) : Tap α ω :=
  match t.failure, t.project x with
  | none, some text =>
    let (failure, writer) := Writer.writeLine t.writer text
    { t with writer, failure }
  | _, _ => t

/-- Ends the stage of a tap. -/
def finish (t : Tap α ω) : Tap α ω :=
  match t.failure with
  | none =>
    let (flushFailure, writer) := Writer.flush t.writer
    { t with writer, flushFailure }
  | some _ => t

/-- Lets items pass one after the other: what comes out, and the tap behind them. -/
def passAll (t : Tap α ω) : List α → List α × Tap α ω
  | [] => ([], t)
  | x :: xs =>
    let (ys, last) := passAll (t.pass x) xs
    (x :: ys, last)

end Tap

end SourceSplice
