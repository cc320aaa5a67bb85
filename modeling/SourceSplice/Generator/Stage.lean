import SourceSplice.Tap
/-!
# Stages

A stage stands between a producer and a consumer and acts on one item at a time: it changes the
item, keeps or drops it, or writes a line about it. The callback of a stage may break off instead,
with a text; that is no item but the end of everything.
-/

namespace SourceSplice

/-- What becomes of an item in a stage. -/
inductive Passed (α : Type) where
  | item (x : α)
  | dropped
  /-- The stage broke off. -/
  | broke (text : String)
  deriving DecidableEq, Repr

/-- A stage on items of one type, with taps that write to writers of one type. -/
inductive Stage (α ω : Type) where
  | transform (f : α → Except String α)
  | filter (keep : α → Except String Bool)
  /-- A tap; `breaks` gives the text with which its projection breaks off on an item. -/
  | tap (breaks : α → Option String) (t : Tap α ω)

namespace Stage

variable {α ω : Type}

def name : Stage α ω → String
  | transform _ => "transform"
  | filter _ => "filter"
  | tap _ _ => "tap"

/-- Sends an item through a stage. -/
def push [Writer ω] (s : Stage α ω) (x : α) : Passed α × Stage α ω :=
  match s with
  | transform f =>
    match f x with
    | .ok y => (.item y, s)
    | .error text => (.broke text, s)
  | filter keep =>
    match keep x with
    | .ok true => (.item x, s)
    | .ok false => (.dropped, s)
    | .error text => (.broke text, s)
  | tap breaks t =>
    match breaks x with
    | none => (.item x, .tap breaks (t.pass x))
    | some text => (.broke text, s)

/-- Ends a stage: a tap flushes its writer. -/
def finish [Writer ω] : Stage α ω → Stage α ω
  | tap breaks t => .tap breaks t.finish
  | s => s

/-- Sends an item through stages, the first of the list first. -/
def pushAll [Writer ω] (x : α) : List (Stage α ω) → Passed α × List (Stage α ω)
  | [] => (.item x, [])
  | s :: ss =>
    match s.push x with
    | (.item y, s) =>
      let (r, ss) := pushAll y ss
      (r, s :: ss)
    | (r, s) => (r, s :: ss)

end Stage

end SourceSplice
