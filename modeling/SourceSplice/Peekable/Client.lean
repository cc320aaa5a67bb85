import SourceSplice.Peekable
/-!
# Clients of a peekable feed

What a client asks of a peekable feed, in any order: draws, looks at the next item, and the question
whether an item is held back. Lookahead can be put around a feed any number of times.
-/

namespace SourceSplice

namespace Peekable

variable {σ α : Type}

inductive Request where
  | next
  | peek
  | hasCached
  deriving DecidableEq, Repr

inductive Answer (α : Type) where
  | drawn (x : Option α)
  | looked (x : Option α)
  | cached (held : Bool)
  deriving DecidableEq, Repr

/-- One request and its answer. -/
def serve [Feed σ α] (p : Peekable σ α) : Request → Answer α × Peekable σ α
  | .next => (.drawn p.next.1, p.next.2)
  | .peek => (.looked p.peek.1, p.peek.2)
  | .hasCached => (.cached p.hasCached, p)

/-- The answers to a sequence of requests, with the feed after them. -/
def serveAll [Feed σ α] (p : Peekable σ α) : List Request → List (Answer α) × Peekable σ α
  | [] => ([], p)
  | r :: rs =>
    let (answer, p) := p.serve r
    let (answers, p) := serveAll p rs
    (answer :: answers, p)

end Peekable

/-- A feed with lookahead put around it so many times. -/
def Nested (σ α : Type) : (depth : Nat) → Type
  | 0 => σ
  | depth + 1 => Peekable (Nested σ α depth) α

namespace Nested

variable {σ α : Type}

instance feed [Feed σ α] : (depth : Nat) → Feed (Nested σ α depth) α
  | 0 => inferInstanceAs (Feed σ α)
  | depth + 1 =>
    have := feed depth
    inferInstanceAs (Feed (Peekable (Nested σ α depth) α) α)

/-- Puts lookahead around a feed; nothing is held back. -/
def ofFeed (s : σ) : (depth : Nat) → Nested σ α depth
  | 0 => s
  | depth + 1 => { inner := ofFeed s depth }

end Nested

end SourceSplice
