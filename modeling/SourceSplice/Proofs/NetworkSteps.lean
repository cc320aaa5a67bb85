import SourceSplice.Generator.Network
import SourceSplice.Proofs.StageComposition
/-!
# The steps of threads, by what they come to

`Moves` says once what a step of the threads of a network can come to, with every outcome and the
channel written out; everything else about the threads is proved from it, and no proof opens a step
again.
-/

namespace SourceSplice.Proofs
open Generator

variable {α ω : Type}

section Steps

/-- A step of one thread that needs no other one. -/
inductive Alone [Writer ω] : Thread α ω → Thread α ω → Prop where
  | goOn (t : Thread α ω) : t.position = .checking →
      (t.out.cancelled = true → t.worker.looks = false) →
      Alone t { t with position := .pulling }
  | turnBack (t : Thread α ω) : t.position = .checking → t.out.cancelled = true →
      Alone t { t with position := .leaving none }
  | drawn (t : Thread α ω) (s : Source α) (k : Nat) (x : α) : t.position = .pulling →
      t.worker = .source s k → s.item k = some x →
      Alone t { t with worker := .source s (k + 1), position := .offering x }
  | dry (t : Thread α ω) (s : Source α) (k : Nat) : t.position = .pulling →
      t.worker = .source s k → s.item k = none →
      Alone t { t with position := .leaving s.failure }
  | handedOn (t : Thread α ω) (s s' : Stage α ω) (x y : α) : t.position = .holding x →
      t.worker = .stage s → s.push x = (.item y, s') →
      Alone t { t with worker := .stage s', position := .offering y }
  | dropped (t : Thread α ω) (s s' : Stage α ω) (x : α) : t.position = .holding x →
      t.worker = .stage s → s.push x = (.dropped, s') →
      Alone t { t with worker := .stage s', position := .checking }
  | broke (t : Thread α ω) (s s' : Stage α ω) (x : α) (text : String) : t.position = .holding x →
      t.worker = .stage s → s.push x = (.broke text, s') →
      Alone t { t with worker := .stage s', position := .leaving (some text) }
  | put (t : Thread α ω) (x : α) : t.position = .offering x → t.out.cancelled = false →
      Alone t { t with out := { t.out with slot := some x }, position := .settling }
  | refused (t : Thread α ω) (x : α) : t.position = .offering x → t.out.cancelled = true →
      Alone t { t with position := .leaving none }
  | delivered (t : Thread α ω) : t.position = .settling → t.out.slot = none →
      Alone t { t with position := .checking }
  | retracted (t : Thread α ω) : t.position = .settling → t.out.cancelled = true →
      Alone t { t with out := { t.out with slot := none }, position := .leaving none }
  | closedSource (t : Thread α ω) (s : Source α) (k : Nat) (broke : Option String) :
      t.position = .leaving broke → t.worker = .source s k →
      Alone t { t with out := t.out.close, position := .ended broke }
  | closedStage (t : Thread α ω) (s s' : Stage α ω) (broke : Option String) :
      t.position = .leaving broke → t.worker = .stage s → passed s' = passed s →
      s' = (if broke.isNone then s.finish else s) →
      Alone t { worker := .stage s', out := t.out.close, position := .releasing broke }

/-- A step of the threads, by what it comes to. -/
inductive Moves [Writer ω] : List (Thread α ω) → List (Thread α ω) → Prop where
  | alone {t t' : Thread α ω} (ts : List (Thread α ω)) : Alone t t' → Moves (t :: ts) (t' :: ts)
  | pulled (t u : Thread α ω) (s : Stage α ω) (x : α) (ts : List (Thread α ω)) :
      t.position = .pulling → t.worker = .stage s → u.out.slot = some x →
      Moves (t :: u :: ts)
        ({ t with position := .holding x } :: { u with out := { u.out with slot := none } } :: ts)
  | sawEnd (t u : Thread α ω) (s : Stage α ω) (ts : List (Thread α ω)) :
      t.position = .pulling → t.worker = .stage s → u.out.slot = none → u.out.closed = true →
      Moves (t :: u :: ts) ({ t with position := .joining } :: u :: ts)
  | joined (t u : Thread α ω) (broke : Option String) (ts : List (Thread α ω)) :
      t.position = .joining → u.position = .ended broke →
      Moves (t :: u :: ts) ({ t with position := .leaving broke } :: u :: ts)
  | released (t u : Thread α ω) (broke : Option String) (ts : List (Thread α ω)) :
      t.position = .releasing broke →
      Moves (t :: u :: ts)
        ({ t with position := .awaiting broke } :: { u with out := u.out.cancel } :: ts)
  | awaited (t u : Thread α ω) (broke broke' : Option String) (ts : List (Thread α ω)) :
      t.position = .awaiting broke → u.position = .ended broke' →
      Moves (t :: u :: ts) ({ t with position := .ended broke } :: u :: ts)
  | before (t : Thread α ω) {ts us : List (Thread α ω)} : Moves ts us → Moves (t :: ts) (t :: us)

variable [Writer ω] {t u : Thread α ω} {ts us : List (Thread α ω)}

lemma alone_check (h : t.position = .checking) : Alone t t.check := by
  unfold Thread.check
  by_cases hc : (t.out.cancelled && t.worker.looks) = true
  · rw [if_pos hc]
    exact .turnBack t h (Bool.and_eq_true_iff.mp hc).1
  · rw [if_neg hc]
    refine .goOn t h fun hcancelled => ?_
    rwa [hcancelled, Bool.true_and, Bool.not_eq_true] at hc

lemma alone_draw {s : Source α} {k : Nat} (h : t.position = .pulling)
    (hw : t.worker = .source s k) : Alone t (t.draw s k) := by
  unfold Thread.draw Chain.draw
  cases hx : s.item k with
  | some x => exact .drawn t s k x h hw hx
  | none =>
    have hdry := Alone.dry t s k h hw hx
    cases hf : s.failure with
    | some text =>
      rw [hf] at hdry
      exact hdry
    | none =>
      rw [hf] at hdry
      exact hdry

lemma alone_apply {s : Stage α ω} {x : α} (h : t.position = .holding x)
    (hw : t.worker = .stage s) : Alone t (t.apply s x) := by
  unfold Thread.apply
  obtain ⟨r, s', hpush⟩ : ∃ r s', s.push x = (r, s') := ⟨_, _, rfl⟩
  rw [hpush]
  cases r with
  | item y => exact .handedOn t s s' x y h hw hpush
  | dropped => exact .dropped t s s' x h hw hpush
  | broke text => exact .broke t s s' x text h hw hpush

lemma alone_offer {x : α} (h : t.position = .offering x) : Alone t (t.offer x) := by
  unfold Thread.offer Channel.offer
  by_cases hc : t.out.cancelled = true
  · rw [if_pos hc]
    exact .refused t x h hc
  · rw [if_neg hc]
    exact .put t x h (Bool.not_eq_true _ ▸ hc)

lemma alone_settle (h : t.position = .settling) (hgo : t.canGoOn) : Alone t t.settle := by
  unfold Thread.settle Channel.settle
  cases hs : t.out.slot with
  | none => exact .delivered t h hs
  | some x =>
    have hc : t.out.cancelled = true := by
      simpa [Thread.canGoOn, Channel.senderWaits, hs] using hgo
    exact .retracted t h hc

lemma alone_close {broke : Option String} (h : t.position = .leaving broke) :
    Alone t (t.close broke) := by
  unfold Thread.close
  cases hw : t.worker with
  | source s k =>
    have hclosed := Alone.closedSource t s k broke h hw
    rwa [hw] at hclosed
  | stage s =>
    cases broke with
    | none => exact .closedStage t s s.finish none h hw (passed_finish s) rfl
    | some text => exact .closedStage t s s (some text) h hw rfl rfl

lemma moves_of_step (h : ThreadStep ts us) : Moves ts us := by
  induction h with
  | check t ts h => exact .alone ts (alone_check h)
  | draw t s k ts h hw => exact .alone ts (alone_draw h hw)
  | pull t u s ts h hw hu =>
    unfold Channel.take
    cases hs : u.out.slot with
    | some x => exact .pulled t u s x ts h hw hs
    | none =>
      have hc : u.out.closed = true := by simpa [Channel.receiverWaits, hs] using hu
      exact .sawEnd t u s ts h hw hs hc
  | join t u broke ts h hu => exact .joined t u broke ts h hu
  | apply t s x ts h hw => exact .alone ts (alone_apply h hw)
  | offer t x ts h _ => exact .alone ts (alone_offer h)
  | settle t ts h hgo => exact .alone ts (alone_settle h hgo)
  | close t broke ts h => exact .alone ts (alone_close h)
  | release t u broke ts h => exact .released t u broke ts h
  | await t u broke broke' ts h hu => exact .awaited t u broke broke' ts h hu
  | before t _ ih => exact .before t ih

end Steps

section Weight

/-- The number of steps that a thread is away from its end at most, if it gets no further item. -/
def stepsLeft : ThreadAt α → Nat
  | .holding _ => 9
  | .offering _ => 8
  | .settling => 7
  | .checking => 6
  | .pulling => 5
  | .joining => 4
  | .leaving _ => 3
  | .releasing _ => 2
  | .awaiting _ => 1
  | .ended _ => 0

/-- The number of items that a worker has drawn from a source. -/
def drawnBy : Worker α ω → Nat
  | .source _ k => k
  | .stage _ => 0

variable [Writer ω] {t t' : Thread α ω}

lemma Alone.stepsLeft_lt (h : Alone t t') : drawnBy t.worker ≤ drawnBy t'.worker ∧
    stepsLeft t'.position + 5 * drawnBy t.worker <
      stepsLeft t.position + 5 * drawnBy t'.worker := by
  cases h with
  | goOn hpos => simp [hpos, stepsLeft]
  | turnBack hpos => simp [hpos, stepsLeft]
  | drawn s k x hpos hw =>
    simp only [hpos, hw, stepsLeft, drawnBy]
    omega
  | dry _ _ hpos => simp [hpos, stepsLeft]
  | handedOn _ _ _ _ hpos hw => simp [hpos, hw, stepsLeft, drawnBy]
  | dropped _ _ _ hpos hw => simp [hpos, hw, stepsLeft, drawnBy]
  | broke _ _ _ _ hpos hw => simp [hpos, hw, stepsLeft, drawnBy]
  | put x hpos => simp [hpos, stepsLeft]
  | refused x hpos => simp [hpos, stepsLeft]
  | delivered hpos => simp [hpos, stepsLeft]
  | retracted hpos => simp [hpos, stepsLeft]
  | closedSource _ _ _ hpos => simp [hpos, stepsLeft]
  | closedStage _ _ _ hpos hw => simp [hpos, hw, stepsLeft, drawnBy]

end Weight

end SourceSplice.Proofs
