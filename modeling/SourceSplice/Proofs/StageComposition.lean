import Mathlib.Tactic
import SourceSplice.Generator.Chain
/-!
# Stages one after the other

What is to come out of a chain is said by the callbacks of its stages alone: each item goes from one
callback to the next, up to the first item on which one of them breaks off. A stage that is sent an
item keeps to its callback, and it goes on doing so, since what a tap hands on does not depend on
what it has written. So stages can be taken as functions, and sending items one by one through all
stages comes to the same as sending all items through the first stage, then what comes out of it
through the second one, and so on. A `Flow` is the items that come out somewhere, and then how they
end.
-/

namespace SourceSplice.Passed

variable {α : Type}

/-- What becomes of an item behind one more stage. -/
def andThen : Passed α → (α → Passed α) → Passed α
  | item x, p => p x
  | dropped, _ => dropped
  | broke text, _ => broke text

/-- What several stages make of an item, the first of the list first. -/
def byAll : List (α → Passed α) → α → Passed α
  | [], x => item x
  | p :: ps, x => (p x).andThen (byAll ps)

/-- What becomes of an item in a stage whose callback gave this. -/
def ofEffect : Except String (Option α) → Passed α
  | .ok (some x) => item x
  | .ok none => dropped
  | .error text => broke text

lemma andThen_item (r : Passed α) : r.andThen item = r := by
  cases r <;> rfl

lemma andThen_assoc (r : Passed α) (p q : α → Passed α) :
    (r.andThen p).andThen q = r.andThen fun x => (p x).andThen q := by
  cases r <;> rfl

lemma byAll_concat (ps : List (α → Passed α)) (p : α → Passed α) (x : α) :
    byAll (ps ++ [p]) x = (byAll ps x).andThen p := by
  induction ps generalizing x with
  | nil => exact andThen_item (p x)
  | cons q ps ih =>
    calc byAll (q :: ps ++ [p]) x = (q x).andThen (byAll (ps ++ [p])) := rfl
      _ = (q x).andThen fun y => (byAll ps y).andThen p := by rw [funext ih]
      _ = (byAll (q :: ps) x).andThen p := (andThen_assoc _ _ _).symm

end SourceSplice.Passed

namespace SourceSplice.Proofs

variable {α ω : Type}

/-- What the callback of a stage makes of an item: an item, nothing, or a text to break off with. -/
def effect : Stage α ω → α → Except String (Option α)
  | .transform f, x => (f x).map some
  | .filter keep, x => (keep x).map fun keeps => if keeps then some x else none
  | .tap breaks _, x =>
    match breaks x with
    | none => .ok (some x)
    | some text => .error text

/-- What the callbacks of several stages make of an item, the first of the list first. -/
def effects : List (Stage α ω) → α → Except String (Option α)
  | [], x => .ok (some x)
  | s :: ss, x =>
    match effect s x with
    | .ok (some y) => effects ss y
    | .ok none => .ok none
    | .error text => .error text

/-- What a stage makes of an item. -/
def passed [Writer ω] (s : Stage α ω) (x : α) : Passed α :=
  (s.push x).1

section Stage

variable [Writer ω]

lemma passed_eq_effect (s : Stage α ω) (x : α) : passed s x = .ofEffect (effect s x) := by
  cases s with
  | transform f =>
    simp only [passed, Stage.push, effect]
    cases f x <;> rfl
  | filter keep =>
    simp only [passed, Stage.push, effect]
    rcases keep x with text | keeps
    · rfl
    · cases keeps <;> rfl
  | tap breaks t =>
    simp only [passed, Stage.push, effect]
    cases breaks x <;> rfl

lemma effect_push (s : Stage α ω) (x : α) : effect (s.push x).2 = effect s := by
  cases s with
  | transform f =>
    simp only [Stage.push]
    cases f x <;> rfl
  | filter keep =>
    simp only [Stage.push]
    rcases keep x with text | keeps
    · rfl
    · cases keeps <;> rfl
  | tap breaks t =>
    simp only [Stage.push]
    cases breaks x <;> rfl

lemma passed_congr {s s' : Stage α ω} (h : effect s' = effect s) : passed s' = passed s := by
  funext x
  rw [passed_eq_effect, passed_eq_effect, h]

lemma passed_push (s : Stage α ω) (x : α) : passed (s.push x).2 = passed s :=
  passed_congr (effect_push s x)

lemma passed_of_push {s s' : Stage α ω} {x : α} {r : Passed α} (h : s.push x = (r, s')) :
    passed s x = r ∧ passed s' = passed s := by
  constructor
  · rw [passed, h]
  · have hpush := passed_push s x
    rwa [h] at hpush

lemma passed_finish (s : Stage α ω) : passed s.finish = passed s :=
  passed_congr (by cases s <;> rfl)

end Stage

/-- Some items, and then how they end. -/
inductive Flow (α : Type) where
  | ended (broke : Option String)
  | item (x : α) (rest : Flow α)

namespace Flow

/-- The items of a list, and then perhaps the text with which their source breaks off. -/
def ofList (failure : Option String) : List α → Flow α
  | [] => ended failure
  | x :: xs => item x (ofList failure xs)

/-- What comes out of a stage. -/
def through (p : α → Passed α) : Flow α → Flow α
  | ended broke => ended broke
  | item x rest =>
    match p x with
    | .item y => item y (rest.through p)
    | .dropped => rest.through p
    | .broke text => ended (some text)

/-- What a draw gives after so many others. Behind the end there is nothing. -/
def draw : Flow α → Nat → Option (Except String α)
  | ended broke, 0 => broke.map .error
  | ended _, _ + 1 => none
  | item x _, 0 => some (.ok x)
  | item _ rest, k + 1 => rest.draw k

lemma draw_ofList (items : List α) (k : Nat) :
    (ofList none items).draw k = items[k]?.map .ok := by
  induction items generalizing k with
  | nil => cases k <;> rfl
  | cons x items ih =>
    cases k with
    | zero => rfl
    | succ k => exact ih k

lemma through_through (p q : α → Passed α) (f : Flow α) :
    (f.through p).through q = f.through fun x => (p x).andThen q := by
  induction f with
  | ended broke => rfl
  | item x rest ih =>
    simp only [through]
    cases p x with
    | item y => simp only [through, Passed.andThen, ih]
    | dropped => simp only [Passed.andThen, ih]
    | broke text => rfl

end Flow

section Chain

/-- What is to come out of a chain: the items go one by one from one callback to the next, up to the
first item on which a callback breaks off. -/
def outcome (failure : Option String) (stages : List (Stage α ω)) : List α → Flow α
  | [] => .ended failure
  | x :: xs =>
    match effects stages x with
    | .ok (some y) => .item y (outcome failure stages xs)
    | .ok none => outcome failure stages xs
    | .error text => .ended (some text)

variable [Writer ω]

lemma pushAll_passed (stages : List (Stage α ω)) (x : α) :
    (Stage.pushAll x stages).1 = Passed.byAll (stages.map passed) x ∧
      (Stage.pushAll x stages).2.map passed = stages.map passed := by
  induction stages generalizing x with
  | nil => exact ⟨rfl, rfl⟩
  | cons s ss ih =>
    obtain ⟨r, s', hpush⟩ : ∃ r s', s.push x = (r, s') := ⟨_, _, rfl⟩
    obtain ⟨hr, hs⟩ := passed_of_push hpush
    simp only [Stage.pushAll, hpush, List.map_cons, Passed.byAll, hr]
    cases r with
    | item y => simp only [ih y, List.map_cons, hs, Passed.andThen, and_self]
    | dropped => simp only [List.map_cons, hs, Passed.andThen, and_self]
    | broke text => simp only [List.map_cons, hs, Passed.andThen, and_self]

lemma byAll_passed (stages : List (Stage α ω)) (x : α) :
    Passed.byAll (stages.map passed) x = .ofEffect (effects stages x) := by
  induction stages generalizing x with
  | nil => rfl
  | cons s ss ih =>
    rw [List.map_cons, Passed.byAll, passed_eq_effect, effects]
    cases effect s x with
    | error text => rfl
    | ok y =>
      cases y with
      | none => rfl
      | some y => exact ih y

lemma outcome_eq_through (failure : Option String) (stages : List (Stage α ω)) (xs : List α) :
    outcome failure stages xs =
      (Flow.ofList failure xs).through (Passed.byAll (stages.map passed)) := by
  induction xs with
  | nil => rfl
  | cons x xs ih =>
    rw [outcome, Flow.ofList, Flow.through, byAll_passed, ih]
    cases effects stages x with
    | error text => rfl
    | ok y => cases y <;> rfl

/-- The stages may be gone through one by one: the last one is sent what comes out of the others. -/
lemma outcome_concat (failure : Option String) (stages : List (Stage α ω)) (s : Stage α ω)
    (xs : List α) :
    outcome failure (stages ++ [s]) xs = (outcome failure stages xs).through (passed s) := by
  rw [outcome_eq_through, outcome_eq_through, Flow.through_through, List.map_append]
  congr 1
  funext x
  exact Passed.byAll_concat _ _ x

end Chain

end SourceSplice.Proofs
