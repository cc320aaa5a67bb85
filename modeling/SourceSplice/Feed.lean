/-!
# Feeds

A feed is a state from which items are drawn one at a time. A feed may give an item again after
it had none; one that never does is said to stay ended. A feed that carries failures among its
items is drained up to the first of them.
-/

namespace SourceSplice

/-- A state from which items are drawn one at a time. -/
class Feed (σ : Type) (α : outParam Type) where
  /-- The next item, or nothing, with the state behind it. -/
  next : σ → Option α × σ

namespace Feed

variable {σ α ε : Type}

/-- The state after `n` draws. -/
def after [Feed σ α] (s : σ) : Nat → σ
  | 0 => s
  | n + 1 => after (next s).2 n

theorem after_add [Feed σ α] (s : σ) (m n : Nat) : after s (m + n) = after (after s m) n := by
  induction m generalizing s with
  | zero => rw [Nat.zero_add, after]
  | succ m ih => rw [Nat.succ_add, after, ih, after]

theorem after_succ [Feed σ α] (s : σ) (n : Nat) : after s (n + 1) = (next (after s n)).2 :=
  after_add s n 1

/-- At most `n` items, up to the first draw that gives none, with the state behind them. -/
def take [Feed σ α] (s : σ) : Nat → List α × σ
  | 0 => ([], s)
  | n + 1 =>
    match next s with
    | (none, s) => ([], s)
    | (some x, s) =>
      let (xs, s) := take s n
      (x :: xs, s)

/-- How many items there are, or the first failure among them. -/
def tryCount : List (Except ε α) → Except ε Nat
  | [] => .ok 0
  | .error e :: _ => .error e
  | .ok _ :: xs => (tryCount xs).map (· + 1)

end Feed

/-- A list gives its elements in order and then nothing. -/
instance {α : Type} : Feed (List α) α where
  next
    | [] => (none, [])
    | x :: xs => (some x, xs)

end SourceSplice
