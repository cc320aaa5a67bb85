import SourceSplice.Generator.Chain
/-!
# Clients of a chain

What a client does with a chain of stages: draw items, look ahead, put further stages on, use the
rest up, or let go of it. A client that has let go can do nothing more.
-/

namespace SourceSplice

/-- A chain in the hands of a client. -/
inductive GeneratorClient (α ω : Type) where
  | bare (c : Chain α ω)
  | peekable (p : Peekable (Chain α ω) (Except String α))

/-- The items that a client got, and the text with which the chain broke off, if it did. -/
structure Drawn (α : Type) where
  items : List α := []
  broke : Option String := none
  deriving DecidableEq, Repr

namespace Drawn

variable {α : Type}

/-- What draws came to. -/
def ofDraws : List (Except String α) → Drawn α
  | [] => {}
  | .ok x :: xs => { ofDraws xs with items := x :: (ofDraws xs).items }
  | .error text :: _ => { broke := some text }

end Drawn

namespace GeneratorClient

variable {α ω : Type} [Writer ω]

def chain : GeneratorClient α ω → Chain α ω
  | bare c => c
  | peekable p => p.inner

/-- The next item, or the text with which the chain broke off, or nothing at the end. -/
def next : GeneratorClient α ω → Option (Except String α) × GeneratorClient α ω
  | bare c => (c.next.1, .bare c.next.2)
  | peekable p => (p.next.1, .peekable p.next.2)

instance : Feed (GeneratorClient α ω) (Except String α) where
  next := next

def take (g : GeneratorClient α ω) (n : Nat) : Drawn α × GeneratorClient α ω :=
  let (draws, g) := Feed.take g n
  (.ofDraws draws, g)

def collect (g : GeneratorClient α ω) : Drawn α × GeneratorClient α ω :=
  g.take (g.chain.patience + 2)

/-- Looks at the next item, if the client can look ahead. That the chain broke off is not held
back. -/
def peek? : GeneratorClient α ω → Option (Option (Except String α) × GeneratorClient α ω)
  | bare _ => none
  | peekable p =>
    match p.peek with
    | (some (.error text), p) => some (some (.error text), .peekable p.forget)
    | (x, p) => some (x, .peekable p)

/-- Whether an item is held back, if the client can look ahead. -/
def hasCached? : GeneratorClient α ω → Option Bool
  | bare _ => none
  | peekable p => some p.hasCached

/-- Puts lookahead around a bare chain. -/
def intoPeekable? : GeneratorClient α ω → Option (GeneratorClient α ω)
  | bare c => some (.peekable { inner := c })
  | peekable _ => none

/-- Takes lookahead away; an item that is held back is lost. -/
def intoInner? : GeneratorClient α ω → Option (GeneratorClient α ω)
  | bare _ => none
  | peekable p => some (.bare p.intoInner)

/-- Puts a stage on; an item that is held back passes through it first. -/
def put (g : GeneratorClient α ω) (stage : Stage α ω) : GeneratorClient α ω :=
  match g with
  | bare c => .bare (c.put stage none)
  | peekable p =>
    match p.cached with
    | some (some (.ok x)) => .bare (p.inner.put stage (some x))
    | _ => .bare (p.inner.put stage none)

end GeneratorClient

end SourceSplice
