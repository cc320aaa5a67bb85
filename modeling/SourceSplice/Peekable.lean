import SourceSplice.Feed
/-!
# Looking ahead

A peekable feed holds at most one draw back: looking at the next item draws it once and keeps it
for the draw that follows. Having looked at the end is kept as well, so looking again draws
nothing.
-/

namespace SourceSplice

/-- A feed with at most one draw held back. -/
structure Peekable (σ α : Type) where
  inner : σ
  /-- The draw that was looked at; `some none` when it gave no item. -/
  cached : Option (Option α) := none

namespace Peekable

variable {σ α : Type}

/-- The item that the next draw will give, with the feed after looking. -/
def peek [Feed σ α] (p : Peekable σ α) : Option α × Peekable σ α :=
  match p.cached with
  | some x => (x, p)
  | none =>
    let (x, inner) := Feed.next p.inner
    (x, { inner, cached := some x })

def hasCached (p : Peekable σ α) : Bool :=
  match p.cached with
  | some (some _) => true
  | _ => false

/-- The feed inside; an item that is held back is lost. -/
def intoInner (p : Peekable σ α) : σ :=
  p.inner

/-- Draws the item that is held back, or else the next one of the feed inside. -/
def next [Feed σ α] (p : Peekable σ α) : Option α × Peekable σ α :=
  match p.cached with
  | some x => (x, { p with cached := none })
  | none =>
    let (x, inner) := Feed.next p.inner
    (x, { inner, cached := none })

instance [Feed σ α] : Feed (Peekable σ α) α where
  next := next

/-- Forgets what is held back. -/
def forget (p : Peekable σ α) : Peekable σ α :=
  { p with cached := none }

def held (p : Peekable σ α) : List α :=
  match p.cached with
  | some (some x) => [x]
  | _ => []

end Peekable

end SourceSplice
