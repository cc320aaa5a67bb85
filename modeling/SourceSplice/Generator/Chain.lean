import SourceSplice.Generator.Stage
import SourceSplice.Peekable
import SourceSplice.Text.Quoted
/-!
# Chains of stages

A chain is a source of items with stages on it. `Chain.step` lets one item on: it is drawn from
the source, or it is one that was drawn before a stage was put on, and it goes through all the
stages behind that place. `Chain.next` lets items on until one comes out.

A chain that has met the end of its source, or that broke off, gives nothing more; that it broke
off is reported once, in the place of an item.
-/

namespace SourceSplice

/-- Where the items of a chain come from. -/
structure Source (α : Type) where
  name : String
  /-- The items in order; the first index without one is the end. -/
  item : Nat → Option α
  /-- The text with which the source breaks off at its end. -/
  failure : Option String := none
  /-- If so many items in a row are dropped, every item will be. -/
  horizon : Nat
  /-- Whether it looks before each item if it is still wanted; else it learns that it is not when it
  hands an item over. -/
  looks : Bool := true

namespace Source

variable {α : Type}

/-- A source that gives the items of a list and then perhaps breaks off. -/
def ofList (name : String) (items : List α) (failure : Option String) : Source α where
  name
  item n := items[n]?
  failure
  horizon := items.length

end Source

/-- A stage in its place, with an item that it is given before it draws on. -/
structure Link (α ω : Type) where
  stage : Stage α ω
  held : Option α := none

/-- A source with stages on it. -/
structure Chain (α ω : Type) where
  source : Source α
  pulled : Nat := 0
  /-- The stages, the last one first. -/
  links : List (Link α ω) := []
  /-- Whether nothing more comes. -/
  ended : Bool := false
  /-- Whether the consumer has met the end since the last stage was put on. -/
  exhausted : Bool := false

/-- What one step of a chain comes to. -/
inductive Progress (α : Type) where
  | item (x : α)
  /-- An item was dropped on the way. -/
  | dropped
  | ended
  | broke (text : String)
  deriving DecidableEq, Repr

/-- What became of an item, as progress of the chain. -/
def Passed.progress {α : Type} : Passed α → Progress α
  | .item x => .item x
  | .dropped => .dropped
  | .broke text => .broke text

namespace Chain

variable {α ω : Type}

def draw (source : Source α) (pulled : Nat) : Progress α × Nat :=
  match source.item pulled with
  | some x => (.item x, pulled + 1)
  | none =>
    match source.failure with
    | some text => (.broke text, pulled)
    | none => (.ended, pulled)

def finishAll [Writer ω] (links : List (Link α ω)) : List (Link α ω) :=
  links.map fun l => { l with stage := l.stage.finish }

/-- Sends an item through the last of some stages. If that breaks off, the stages before it end. -/
def pushLast [Writer ω] (stage : Stage α ω) (x : α) (before : List (Link α ω)) :
    Progress α × List (Link α ω) :=
  match stage.push x with
  | (.broke text, stage) => (.broke text, { stage } :: finishAll before)
  | (r, stage) => (r.progress, { stage } :: before)

/-- Lets one item on through the stages. -/
def advance [Writer ω] (source : Source α) (pulled : Nat) :
    List (Link α ω) → Progress α × Nat × List (Link α ω)
  | [] =>
    let (r, pulled) := draw source pulled
    (r, pulled, [])
  | l :: ls =>
    match l.held with
    | some x =>
      let (r, links) := pushLast l.stage x ls
      (r, pulled, links)
    | none =>
      match advance source pulled ls with
      | (.item x, pulled, ls) =>
        let (r, links) := pushLast l.stage x ls
        (r, pulled, links)
      | (r, pulled, ls) => (r, pulled, l :: ls)

def step [Writer ω] (c : Chain α ω) : Progress α × Chain α ω :=
  if c.ended then (.ended, c)
  else
    let (r, pulled, links) := advance c.source c.pulled c.links
    (r, { c with pulled, links })

/-- Ends a chain: every stage is ended, the first one first. -/
def finish [Writer ω] (c : Chain α ω) : Chain α ω :=
  if c.ended then c
  else { c with ended := true, links := finishAll c.links }

/-- Lets items on, at most so many, until one comes out or there are no more. -/
def nextWithin [Writer ω] (c : Chain α ω) : (steps : Nat) → Option (Except String α) × Chain α ω
  | 0 => (none, c)
  | steps + 1 =>
    match c.step with
    | (.item x, c) => (some (.ok x), c)
    | (.dropped, c) => nextWithin c steps
    | (.ended, c) => (none, { c.finish with exhausted := true })
    | (.broke text, c) => (some (.error text), { c with ended := true, exhausted := true })

/-- A bound on the items that can be dropped in a row. -/
def patience (c : Chain α ω) : Nat :=
  c.source.horizon + c.links.length + 1

/-- The next item, or the text with which the chain broke off, or nothing at the end. -/
def next [Writer ω] (c : Chain α ω) : Option (Except String α) × Chain α ω :=
  c.nextWithin c.patience

instance [Writer ω] : Feed (Chain α ω) (Except String α) where
  next := next

/-- The first `n` links of a chain after each of their stages has worked ahead until it had an item
to hand over, and was ended then. A stage that meets the end on the way, or breaks off, ends there. -/
def endAhead [Writer ω] (c : Chain α ω) : (n : Nat) → List (Link α ω)
  | 0 => []
  | n + 1 =>
    let ahead := c.next.2
    match ahead.ended, ahead.links with
    | false, l :: ls =>
      { l with stage := l.stage.finish } :: endAhead { ahead with links := ls } n
    | _, links => links

/-- Ends a chain whose consumer lets go. The last stage gets to know this before it draws again; the
stages before it have worked ahead. -/
def letGo [Writer ω] (c : Chain α ω) : Chain α ω :=
  if c.ended then c
  else
    match c.links with
    | [] => { c with ended := true }
    | l :: ls =>
      { c with
        ended := true
        links := { l with stage := l.stage.finish } :: endAhead { c with links := ls } ls.length }

/-- Puts a stage on a chain, with an item that it is given first. -/
def put [Writer ω] (c : Chain α ω) (stage : Stage α ω) (held : Option α) : Chain α ω :=
  let stage := if c.ended && held.isNone then stage.finish else stage
  { c with links := { stage, held } :: c.links, exhausted := false }

/-- The name of the last stage, or of the source. -/
def name (c : Chain α ω) : String :=
  match c.links with
  | [] => c.source.name
  | l :: _ => l.stage.name

def debug (c : Chain α ω) : String :=
  "Generator \x7b name: " ++ Text.quoted c.name ++ ", exhausted: " ++ toString c.exhausted ++ " \x7d"

/-- The taps of a chain, the first one first. -/
def taps (c : Chain α ω) : List (Tap α ω) :=
  c.links.reverse.filterMap fun l =>
    match l.stage with
    | .tap _ t => some t
    | _ => none

end Chain

end SourceSplice
