import SourceSplice.Proofs.NetworkCancellation
/-!
# When letting go does not end a network

A stage that drops items, with a stage behind it that waits for one, goes on as long as its source:
the waiting stage does not look whether it is cancelled, and so cannot cancel the one it waits for.
A round of the threads draws one item and has it dropped; it leaves the threads where they were, so
there is a further round. Hence letting go of a chain ends it promptly, over every source, exactly
if no item is dropped in front of the last stage.
-/

namespace SourceSplice.Proofs
open Generator Generator.Network

variable {α ω : Type} [Writer ω]

/-- Steps of threads, one after the other. -/
abbrev ThreadSteps : List (Thread α ω) → List (Thread α ω) → Prop :=
  Relation.ReflTransGen ThreadStep

/-- Threads all of which are about to look whether they are cancelled, and are not, with nothing
under way; so many items were drawn. -/
inductive AtRest (source : Source α) (k : Nat) :
    List (α → Passed α) → List (Thread α ω) → Prop where
  | source : AtRest source k [] [{ worker := .source source k }]
  | stage (s : Stage α ω) {ps : List (α → Passed α)} {ts : List (Thread α ω)} :
      AtRest source k ps ts → AtRest source k (passed s :: ps) ({ worker := .stage s } :: ts)

variable {source : Source α} {k : Nat} {x y z : α} {ps : List (α → Passed α)}
  {ts us : List (Thread α ω)} {w : Worker α ω} {n : Network α ω}

lemma ThreadSteps.before (t : Thread α ω) (h : ThreadSteps ts us) :
    ThreadSteps (t :: ts) (t :: us) :=
  h.lift (t :: ·) fun _ _ => .before t

/-- A thread that has an item to hand over. -/
def handing (w : Worker α ω) (x : α) : Thread α ω where
  worker := w
  position := .settling
  out := { slot := some x }

lemma offer_steps (w : Worker α ω) (x : α) (ts : List (Thread α ω)) :
    ThreadSteps ({ worker := w, position := .offering x } :: ts) (handing w x :: ts) :=
  .single (.offer _ x ts rfl rfl)

lemma holding_steps (s : Stage α ω) (h : ThreadSteps ts (handing w z :: us)) :
    ThreadSteps ({ worker := .stage s } :: ts)
      ({ worker := .stage s, position := .holding z } :: { worker := w } :: us) := by
  have hcheck : ThreadSteps ({ worker := .stage s } :: ts)
      ({ worker := .stage s, position := .pulling } :: ts) := .single (.check _ ts rfl)
  have hpull : ThreadStep ({ worker := .stage s, position := .pulling } :: handing w z :: us)
      ({ worker := .stage s, position := .holding z } ::
        { worker := w, position := .settling } :: us) := .pull _ (handing w z) s us rfl rfl rfl
  have hsettle : ThreadStep ({ worker := .stage s, position := .holding z } ::
      { worker := w, position := .settling } :: us)
      ({ worker := .stage s, position := .holding z } :: { worker := w } :: us) :=
    .before _ (.settle _ us rfl rfl)
  exact ((hcheck.trans (h.before _)).tail hpull).tail hsettle

lemma handing_steps {s : Stage α ω} (hy : passed s z = .item y) (ts : List (Thread α ω)) :
    ∃ s', passed s' = passed s ∧
      ThreadSteps ({ worker := .stage s, position := .holding z } :: ts)
        (handing (.stage s') y :: ts) := by
  have hpush : s.push z = (.item y, (s.push z).2) := Prod.ext hy rfl
  have happly : ThreadStep ({ worker := .stage s, position := .holding z } :: ts)
      ({ worker := .stage (s.push z).2, position := .offering y } :: ts) := by
    have hstep := ThreadStep.apply { worker := .stage s, position := .holding z } s z ts rfl rfl
    rwa [Thread.apply, hpush] at hstep
  exact ⟨_, passed_push s z, .head happly (offer_steps _ y ts)⟩

lemma dropping_step {s : Stage α ω} (hz : passed s z = .dropped) (ts : List (Thread α ω)) :
    ∃ s', passed s' = passed s ∧
      ThreadStep ({ worker := .stage s, position := .holding z } :: ts)
        ({ worker := .stage s' } :: ts) := by
  have hpush : s.push z = (.dropped, (s.push z).2) := Prod.ext hz rfl
  refine ⟨_, passed_push s z, ?_⟩
  have hstep := ThreadStep.apply { worker := .stage s, position := .holding z } s z ts rfl rfl
  rwa [Thread.apply, hpush] at hstep

lemma draw_steps (hx : source.item k = some x) :
    ThreadSteps (ω := ω) [{ worker := .source source k }]
      [handing (.source source (k + 1)) x] := by
  have hcheck : ThreadStep (ω := ω) [{ worker := .source source k }]
      [{ worker := .source source k, position := .pulling }] := .check _ [] rfl
  have hdraw : ThreadStep (ω := ω) [{ worker := .source source k, position := .pulling }]
      [{ worker := .source source (k + 1), position := .offering x }] := by
    have hstep := ThreadStep.draw (ω := ω) { worker := .source source k, position := .pulling }
      source k [] rfl rfl
    rwa [Thread.draw, Chain.draw, hx] at hstep
  exact .head hcheck (.head hdraw (offer_steps _ x []))

lemma AtRest.steps_item (h : AtRest source k ps ts) (hx : source.item k = some x)
    (hy : Passed.byAll ps.reverse x = .item y) :
    ∃ w us, ThreadSteps ts (handing w y :: us) ∧
      AtRest source (k + 1) ps ({ worker := w } :: us) := by
  induction h generalizing y with
  | source =>
    obtain rfl : x = y := Passed.item.inj hy
    exact ⟨_, [], draw_steps hx, .source⟩
  | @stage s ps ts h ih =>
    rw [byAll_reverse_cons] at hy
    cases hz : Passed.byAll ps.reverse x with
    | item z =>
      obtain ⟨w, us, hsteps, hrest⟩ := ih hz
      rw [hz] at hy
      obtain ⟨s', hsame, hhand⟩ := handing_steps hy ({ worker := w } :: us)
      rw [← hsame]
      exact ⟨_, _, (holding_steps s hsteps).trans hhand, .stage s' hrest⟩
    | dropped =>
      rw [hz] at hy
      cases hy
    | broke text =>
      rw [hz] at hy
      cases hy

lemma AtRest.steps_dropped (h : AtRest source k ps ts) (hx : source.item k = some x)
    (hdrop : Passed.byAll ps.reverse x = .dropped) :
    ∃ us, ThreadSteps ts us ∧ AtRest source (k + 1) ps us := by
  induction h with
  | source => cases hdrop
  | @stage s ps ts h ih =>
    rw [byAll_reverse_cons] at hdrop
    cases hz : Passed.byAll ps.reverse x with
    | item z =>
      obtain ⟨w, us, hsteps, hrest⟩ := h.steps_item hx hz
      rw [hz] at hdrop
      obtain ⟨s', hsame, hstep⟩ := dropping_step hdrop ({ worker := w } :: us)
      rw [← hsame]
      exact ⟨_, (holding_steps s hsteps).tail hstep, .stage s' hrest⟩
    | dropped =>
      obtain ⟨us, hsteps, hrest⟩ := ih hz
      exact ⟨_, hsteps.before _, .stage s hrest⟩
    | broke text =>
      rw [hz] at hdrop
      cases hdrop

lemma AtRest.rounds (hdrop : ∀ k, ∃ x, source.item k = some x ∧
      Passed.byAll ps.reverse x = .dropped) (h : AtRest source k ps ts) (j : Nat) :
    ∃ us, ThreadSteps ts us ∧ AtRest source (k + j) ps us := by
  induction j with
  | zero => exact ⟨ts, .refl, h⟩
  | succ j ih =>
    obtain ⟨us, hsteps, hrest⟩ := ih
    obtain ⟨x, hx, hd⟩ := hdrop (k + j)
    obtain ⟨vs, hsteps', hrest'⟩ := hrest.steps_dropped hx hd
    exact ⟨vs, hsteps.trans hsteps', hrest'⟩

lemma AtRest.drawn (h : AtRest source k ps ts) : drawn ts = k := by
  induction h with
  | source => rfl
  | stage s _ ih => exact (Nat.zero_add _).trans ih

lemma atRest_start (source : Source α) (stages : List (Stage α ω)) :
    AtRest source 0 (stages.map passed) (start source stages).threads := by
  induction stages with
  | nil => exact .source
  | cons s stages ih => exact .stage s ih

lemma reaches_of_threadSteps (h : ThreadSteps n.threads us) :
    Reaches n { n with threads := us } := by
  induction h with
  | refl => exact .refl n
  | tail _ hstep ih => exact .step ih (.thread _ hstep)

/-- A chain whose last stage waits for an item, and whose consumer has let go. -/
def starved (source : Source α) (s : Stage α ω) (stages : List (Stage α ω)) : Network α ω where
  threads := { worker := .stage s, position := .pulling, out := { cancelled := true } } ::
    (start source stages).threads
  consumer := .awaiting

lemma reaches_starved (source : Source α) (s : Stage α ω) (stages : List (Stage α ω)) :
    Reaches (start source (s :: stages)) (starved source s stages) := by
  have hcheck : Reaches (start source (s :: stages))
      { threads := { worker := .stage s, position := .pulling } ::
          (start source stages).threads } :=
    .step (.refl _) (.thread _ (.check _ _ rfl))
  exact .step hcheck (.letGo _ { worker := .stage s, position := .pulling } _ rfl rfl)

lemma not_stopsPromptly (source : Source α) (s : Stage α ω) (stages : List (Stage α ω))
    (hdrop : ∀ k, ∃ x, source.item k = some x ∧
      Passed.byAll (stages.map passed).reverse x = .dropped) :
    ¬ StopsPromptly source (s :: stages) := by
  intro h
  have hgo := reaches_starved source s stages
  have hrest := atRest_start source stages
  obtain ⟨us, hsteps, hus⟩ := hrest.rounds hdrop (stages.length + 3)
  have hon := reaches_of_threadSteps (n := starved source s stages) (hsteps.before _)
  have hpulls := h.pulls _ _ hgo rfl hon
  have ho := (inOrder_start source (s :: stages)).reaches hgo
  rw [ho.linked.pulled, (ho.reaches hon).linked.pulled] at hpulls
  simp only [starved, drawn, drawnBy, hrest.drawn, hus.drawn, List.length_cons] at hpulls
  omega

/-- Letting go of a chain ends it promptly, over every source that looks whether it is still wanted,
exactly if there is no item that is dropped in front of the last stage. The stages stand last one
first. -/
theorem stopsPromptly_iff_keeps (stages : List (Stage α ω)) :
    (∀ source : Source α, source.looks = true → StopsPromptly source stages) ↔
      ∀ x, (Stage.pushAll x stages.tail.reverse).1 ≠ .dropped := by
  have hpush : ∀ x, (Stage.pushAll x stages.tail.reverse).1 =
      Passed.byAll (stages.map passed).tail.reverse x := by
    intro x
    rw [(pushAll_passed _ x).1, List.map_reverse, List.map_tail]
  constructor
  · intro h x hdropped
    cases stages with
    | nil => cases hdropped
    | cons s stages =>
      rw [hpush] at hdropped
      let endless : Source α := { name := "", item := fun _ => some x, horizon := 1 }
      exact not_stopsPromptly endless s stages (fun _ => ⟨x, rfl, hdropped⟩)
        (h endless rfl)
  · intro h source hlooks
    refine stopsPromptly_of_keeps source hlooks stages fun x => ?_
    rw [← hpush]
    exact h x

/-- Behind a stage that drops every number waits one that would take it. -/
theorem transform_behind_filter_runs_on :
    ¬ StopsPromptly (ω := Sink) { name := "numbers", item := some, horizon := 0 }
      [.transform .ok, .filter fun _ => .ok false] := by
  exact not_stopsPromptly _ _ _ fun k => ⟨k, rfl, rfl⟩

end SourceSplice.Proofs
