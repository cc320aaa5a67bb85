import SourceSplice.Proofs.NetworkSteps
/-!
# The order in a network of stages

`Linked` is the invariant of the threads of a network: every thread agrees with its own channel, and
with the thread before it about who has let go of what. It follows that only a thread that waits for
its reader keeps a chain from going on.
-/

namespace SourceSplice.Proofs
open Generator Generator.Network

variable {α ω : Type}

section Invariant

/-- Whether a thread has closed its channel. -/
def hasClosed : ThreadAt α → Bool
  | .releasing _ | .awaiting _ | .ended _ => true
  | _ => false

/-- Whether a thread has let go of the thread before it. -/
def hasReleased : ThreadAt α → Bool
  | .awaiting _ | .ended _ => true
  | _ => false

/-- Whether a source can be there: it takes from no thread and has none to wait for. -/
def forSource : ThreadAt α → Bool
  | .joining | .holding _ | .releasing _ | .awaiting _ => false
  | _ => true

/-- A thread agrees with its own channel. -/
structure Sound (t : Thread α ω) : Prop where
  slot : ∀ x, t.out.slot = some x → t.position = .settling
  closed : t.out.closed = hasClosed t.position

/-- A thread that is at `p` agrees with the thread before it. -/
structure Joint (p : ThreadAt α) (u : Thread α ω) : Prop where
  cancelled : u.out.cancelled = hasReleased p
  joining : p = .joining → u.out.closed = true
  ended : ∀ broke, p = .ended broke → ∃ broke', u.position = .ended broke'

/-- Threads that agree with each other; `ps` is what their stages make of an item, the last one
first. -/
inductive Linked [Writer ω] (source : Source α) :
    List (α → Passed α) → List (Thread α ω) → Prop where
  | source {t : Thread α ω} {k : Nat} : t.worker = .source source k →
      forSource t.position = true → Sound t → Linked source [] [t]
  | stage {t u : Thread α ω} {ts : List (Thread α ω)} {s : Stage α ω} {ps : List (α → Passed α)} :
      t.worker = .stage s → Sound t → Joint t.position u → Linked source ps (u :: ts) →
      Linked source (passed s :: ps) (t :: u :: ts)

variable {source : Source α} {ps : List (α → Passed α)} {t t' u : Thread α ω}
  {ts us : List (Thread α ω)}

lemma Sound.slot_eq_none (h : Sound t) (hpos : t.position ≠ .settling) : t.out.slot = none := by
  cases hs : t.out.slot with
  | none => rfl
  | some x => exact absurd (h.slot x hs) hpos

lemma Sound.goTo (h : Sound t) {w : Worker α ω} {p q : ThreadAt α} (hpos : t.position = p)
    (hp : p ≠ .settling) (hq : hasClosed q = hasClosed p) :
    Sound { t with worker := w, position := q } := by
  subst hpos
  refine ⟨fun x hx => ?_, h.closed.trans hq.symm⟩
  rw [h.slot_eq_none hp] at hx
  cases hx

lemma Joint.goTo {r p q : ThreadAt α} (h : Joint r u) (hpos : r = p) (hp : hasReleased p = false)
    (hq : hasReleased q = false) (hjoining : q = .joining → u.out.closed = true) : Joint q u := by
  subst hpos
  refine ⟨h.cancelled.trans (hp.trans hq.symm), hjoining, fun broke hended => ?_⟩
  rw [hended] at hq
  cases hq

variable [Writer ω]

lemma Alone.cancelled (h : Alone t t') : t'.out.cancelled = t.out.cancelled := by
  cases h <;> rfl

lemma Alone.sound (h : Alone t t') (hs : Sound t) : Sound t' := by
  have hclosed := hs.closed
  cases h with
  | goOn hpos => exact hs.goTo hpos nofun rfl
  | turnBack hpos => exact hs.goTo hpos nofun rfl
  | drawn _ _ _ hpos => exact hs.goTo hpos nofun rfl
  | dry _ _ hpos => exact hs.goTo hpos nofun rfl
  | handedOn _ _ _ _ hpos => exact hs.goTo hpos nofun rfl
  | dropped _ _ _ hpos => exact hs.goTo hpos nofun rfl
  | broke _ _ _ _ hpos => exact hs.goTo hpos nofun rfl
  | refused _ hpos => exact hs.goTo hpos nofun rfl
  | put x hpos =>
    rw [hpos] at hclosed
    exact ⟨fun _ _ => rfl, hclosed⟩
  | delivered hpos hslot =>
    rw [hpos] at hclosed
    refine ⟨fun x hx => ?_, hclosed⟩
    cases hslot.symm.trans hx
  | retracted hpos =>
    rw [hpos] at hclosed
    exact ⟨nofun, hclosed⟩
  | closedSource _ _ _ hpos =>
    refine ⟨fun x hx => ?_, rfl⟩
    cases (hs.slot_eq_none (by rw [hpos]; nofun)).symm.trans hx
  | closedStage _ _ _ hpos =>
    refine ⟨fun x hx => ?_, rfl⟩
    cases (hs.slot_eq_none (by rw [hpos]; nofun)).symm.trans hx

lemma Alone.closed (h : Alone t t') (hc : t.out.closed = true) : t'.out.closed = true := by
  cases h with
  | closedSource | closedStage => rfl
  | _ => exact hc

lemma Alone.of_source {k : Nat} (h : Alone t t') (hw : t.worker = .source source k) :
    ∃ k', t'.worker = .source source k' ∧ forSource t'.position = true := by
  cases h with
  | drawn s j x _ hw' =>
    cases hw.symm.trans hw'
    exact ⟨k + 1, rfl, rfl⟩
  | handedOn _ _ _ _ _ hw' => cases hw.symm.trans hw'
  | dropped _ _ _ _ hw' => cases hw.symm.trans hw'
  | broke _ _ _ _ _ hw' => cases hw.symm.trans hw'
  | closedStage _ _ _ _ hw' => cases hw.symm.trans hw'
  | _ => exact ⟨k, hw, rfl⟩

lemma Alone.of_stage {s : Stage α ω} (h : Alone t t') (hw : t.worker = .stage s) :
    ∃ s', t'.worker = .stage s' ∧ passed s' = passed s := by
  cases h with
  | drawn _ _ _ _ hw' => cases hw.symm.trans hw'
  | handedOn _ s' _ _ _ hw' hpush =>
    cases hw.symm.trans hw'
    exact ⟨s', rfl, (passed_of_push hpush).2⟩
  | dropped _ s' _ _ hw' hpush =>
    cases hw.symm.trans hw'
    exact ⟨s', rfl, (passed_of_push hpush).2⟩
  | broke _ s' _ _ _ hw' hpush =>
    cases hw.symm.trans hw'
    exact ⟨s', rfl, (passed_of_push hpush).2⟩
  | closedStage _ s' _ _ hw' hsame =>
    cases hw.symm.trans hw'
    exact ⟨s', rfl, hsame⟩
  | _ => exact ⟨s, hw, rfl⟩

lemma Alone.joint {s : Stage α ω} (h : Alone t t') (hw : t.worker = .stage s)
    (hj : Joint t.position u) : Joint t'.position u := by
  cases h with
  | closedSource _ _ _ _ hw' => cases hw.symm.trans hw'
  | goOn hpos => exact hj.goTo hpos rfl rfl nofun
  | turnBack hpos => exact hj.goTo hpos rfl rfl nofun
  | drawn _ _ _ hpos => exact hj.goTo hpos rfl rfl nofun
  | dry _ _ hpos => exact hj.goTo hpos rfl rfl nofun
  | handedOn _ _ _ _ hpos => exact hj.goTo hpos rfl rfl nofun
  | dropped _ _ _ hpos => exact hj.goTo hpos rfl rfl nofun
  | broke _ _ _ _ hpos => exact hj.goTo hpos rfl rfl nofun
  | put _ hpos => exact hj.goTo hpos rfl rfl nofun
  | refused _ hpos => exact hj.goTo hpos rfl rfl nofun
  | delivered hpos => exact hj.goTo hpos rfl rfl nofun
  | retracted hpos => exact hj.goTo hpos rfl rfl nofun
  | closedStage _ _ _ hpos => exact hj.goTo hpos rfl rfl nofun

lemma Moves.head (h : Moves (t :: ts) us) : ∃ t' ts', us = t' :: ts' ∧
    t'.out.cancelled = t.out.cancelled ∧ (t.out.closed = true → t'.out.closed = true) := by
  cases h with
  | alone _ h => exact ⟨_, _, rfl, h.cancelled, h.closed⟩
  | _ => exact ⟨_, _, rfl, rfl, id⟩

lemma Moves.of_ended (h : Moves (t :: ts) us) {broke : Option String}
    (hpos : t.position = .ended broke) : ∃ ts', us = t :: ts' := by
  cases h with
  | alone _ h => cases h <;> simp_all only [reduceCtorEq]
  | before _ _ => exact ⟨_, rfl⟩
  | pulled _ _ _ _ _ hpos' => cases hpos.symm.trans hpos'
  | sawEnd _ _ _ _ hpos' => cases hpos.symm.trans hpos'
  | joined _ _ _ _ hpos' => cases hpos.symm.trans hpos'
  | released _ _ _ _ hpos' => cases hpos.symm.trans hpos'
  | awaited _ _ _ _ _ hpos' => cases hpos.symm.trans hpos'

lemma Linked.exists_cons (h : Linked source ps ts) : ∃ t ts', ts = t :: ts' := by
  cases h with
  | source => exact ⟨_, _, rfl⟩
  | stage => exact ⟨_, _, rfl⟩

lemma Linked.sound (h : Linked source ps (t :: ts)) : Sound t := by
  cases h with
  | source _ _ hs => exact hs
  | stage _ hs _ _ => exact hs

lemma Linked.withOut (h : Linked source ps (t :: ts)) {out : Channel α}
    (hs : Sound { t with out := out }) : Linked source ps ({ t with out := out } :: ts) := by
  cases h with
  | source hw hpos _ => exact .source hw hpos hs
  | stage hw _ hj hl => exact .stage hw hs hj hl

lemma Linked.withoutItem (h : Linked source ps (t :: ts)) :
    Linked source ps ({ t with out := { t.out with slot := none } } :: ts) :=
  h.withOut ⟨nofun, h.sound.closed⟩

lemma Linked.cancel (h : Linked source ps (t :: ts)) :
    Linked source ps ({ t with out := t.out.cancel } :: ts) :=
  h.withOut ⟨h.sound.slot, h.sound.closed⟩

lemma Moves.linked (h : Moves ts us) (hl : Linked source ps ts) : Linked source ps us := by
  induction h generalizing ps with
  | alone ts h =>
    cases hl with
    | source hw _ hs =>
      obtain ⟨k, hw', hpos⟩ := h.of_source hw
      exact .source hw' hpos (h.sound hs)
    | stage hw hs hj hl =>
      obtain ⟨s', hw', hsame⟩ := h.of_stage hw
      rw [← hsame]
      exact .stage hw' (h.sound hs) (h.joint hw hj) hl
  | pulled t u s x ts hpos _ _ =>
    cases hl with
    | stage hw hs hj hl =>
      have hj' : Joint (.holding x) u := hj.goTo hpos rfl rfl nofun
      exact .stage hw (hs.goTo hpos nofun rfl) ⟨hj'.cancelled, hj'.joining, hj'.ended⟩
        hl.withoutItem
  | sawEnd t u s ts hpos _ _ hclosed =>
    cases hl with
    | stage hw hs hj hl =>
      exact .stage hw (hs.goTo hpos nofun rfl) (hj.goTo hpos rfl rfl fun _ => hclosed) hl
  | joined t u broke ts hpos _ =>
    cases hl with
    | stage hw hs hj hl =>
      exact .stage hw (hs.goTo hpos nofun rfl) (hj.goTo hpos rfl rfl nofun) hl
  | released t u broke ts hpos =>
    cases hl with
    | stage hw hs _ hl =>
      exact .stage hw (hs.goTo hpos nofun rfl) ⟨rfl, nofun, nofun⟩ hl.cancel
  | awaited t u broke broke' ts hpos hu =>
    cases hl with
    | stage hw hs hj hl =>
      have hcancelled := hj.cancelled
      rw [hpos] at hcancelled
      exact .stage hw (hs.goTo hpos nofun rfl) ⟨hcancelled, nofun, fun _ _ => ⟨broke', hu⟩⟩ hl
  | before t h ih =>
    cases hl with
    | source => cases h
    | stage hw hs hj hl =>
      obtain ⟨u', ts', rfl, hcancelled, hclosed⟩ := h.head
      refine .stage hw hs ⟨hcancelled.trans hj.cancelled, fun hpos => hclosed (hj.joining hpos),
        fun broke hpos => ?_⟩ (ih hl)
      obtain ⟨broke', hu⟩ := hj.ended broke hpos
      obtain ⟨ts'', hsame⟩ := h.of_ended hu
      obtain ⟨rfl, rfl⟩ := List.cons.inj hsame
      exact ⟨broke', hu⟩

lemma Linked.ended (hl : Linked source ps (t :: ts)) {broke : Option String}
    (hpos : t.position = .ended broke) : ∀ u ∈ t :: ts, ∃ broke, u.position = .ended broke := by
  induction ts generalizing t ps broke with
  | nil =>
    intro u hu
    obtain rfl := List.mem_singleton.mp hu
    exact ⟨broke, hpos⟩
  | cons v ts ih =>
    cases hl with
    | stage _ _ hj hl =>
      obtain ⟨broke', hv⟩ := hj.ended broke hpos
      intro u hu
      rcases List.mem_cons.mp hu with rfl | hu
      · exact ⟨broke, hpos⟩
      · exact ih hl hv u hu

/-- A thread that waits for its reader to take an item. -/
structure Waits (t : Thread α ω) : Prop where
  position : t.position = .settling
  slot : ∃ x, t.out.slot = some x
  cancelled : t.out.cancelled = false

lemma Sound.step_of_offering (hs : Sound t) {x : α} (hpos : t.position = .offering x) :
    ∃ us, ThreadStep (t :: ts) us := by
  have hgo : t.canGoOn := by
    rw [Thread.canGoOn, Channel.senderWaits, hs.slot_eq_none (by simp [hpos])]
    rfl
  exact ⟨_, .offer t x ts hpos hgo⟩

lemma step_or_waits (hpos : t.position = .settling) :
    (∃ us, ThreadStep (t :: ts) us) ∨ Waits t := by
  by_cases hgo : t.canGoOn
  · exact .inl ⟨_, .settle t ts hpos hgo⟩
  · rw [Thread.canGoOn, Channel.senderWaits, Bool.not_eq_false, Bool.and_eq_true,
      Bool.not_eq_true'] at hgo
    exact .inr ⟨hpos, Option.isSome_iff_exists.mp hgo.1, hgo.2⟩

lemma Linked.progress (hl : Linked source ps (t :: ts)) :
    (∃ us, ThreadStep (t :: ts) us) ∨ (∃ broke, t.position = .ended broke) ∨ Waits t := by
  induction ts generalizing t ps with
  | nil =>
    cases hl with
    | source hw hfor hs =>
      cases hpos : t.position with
      | checking => exact .inl ⟨_, .check t [] hpos⟩
      | pulling => exact .inl ⟨_, .draw t source _ [] hpos hw⟩
      | offering x => exact .inl (hs.step_of_offering hpos)
      | settling => exact (step_or_waits hpos).imp_right .inr
      | leaving broke => exact .inl ⟨_, .close t broke [] hpos⟩
      | ended broke => exact .inr (.inl ⟨broke, rfl⟩)
      | joining => cases (hpos ▸ hfor : forSource (α := α) .joining = true)
      | holding x => cases (hpos ▸ hfor : forSource (.holding x) = true)
      | releasing broke => cases (hpos ▸ hfor : forSource (α := α) (.releasing broke) = true)
      | awaiting broke => cases (hpos ▸ hfor : forSource (α := α) (.awaiting broke) = true)
  | cons u ts ih =>
    cases hl with
    | stage hw hs hj hl =>
      have hbefore : (∃ us, ThreadStep (u :: ts) us) → ∃ us, ThreadStep (t :: u :: ts) us := by
        rintro ⟨us, h⟩
        exact ⟨t :: us, .before t h⟩
      cases hpos : t.position with
      | checking => exact .inl ⟨_, .check t _ hpos⟩
      | pulling =>
        refine .inl ?_
        rcases ih hl with h | ⟨broke, hu⟩ | hu
        · exact hbefore h
        · have hclosed := hl.sound.closed
          rw [hu] at hclosed
          refine ⟨_, .pull t u _ ts hpos hw ?_⟩
          rw [Channel.receiverWaits, hclosed]
          exact Bool.and_false _
        · obtain ⟨x, hx⟩ := hu.slot
          refine ⟨_, .pull t u _ ts hpos hw ?_⟩
          rw [Channel.receiverWaits, hx]
          rfl
      | joining =>
        refine .inl ?_
        rcases ih hl with h | ⟨broke, hu⟩ | hu
        · exact hbefore h
        · exact ⟨_, .join t u broke ts hpos hu⟩
        · -- a closed channel has no item left in it
          have hclosed := hl.sound.closed
          rw [hu.position, hj.joining hpos] at hclosed
          cases hclosed
      | holding x => exact .inl ⟨_, .apply t _ x _ hpos hw⟩
      | offering x => exact .inl (hs.step_of_offering hpos)
      | settling => exact (step_or_waits hpos).imp_right .inr
      | leaving broke => exact .inl ⟨_, .close t broke _ hpos⟩
      | releasing broke => exact .inl ⟨_, .release t u broke ts hpos⟩
      | awaiting broke =>
        refine .inl ?_
        rcases ih hl with h | ⟨broke', hu⟩ | hu
        · exact hbefore h
        · exact ⟨_, .await t u broke broke' ts hpos hu⟩
        · -- the thread before knows that it is let go
          have hcancelled := hj.cancelled
          rw [hu.cancelled, hpos] at hcancelled
          cases hcancelled
      | ended broke => exact .inr (.inl ⟨broke, rfl⟩)

end Invariant

section Network

/-- Whether a consumer has let go of its chain. -/
def hasLetGo : ConsumerAt → Bool
  | .awaiting | .gone => true
  | _ => false

/-- The threads agree with each other, and the last one with the consumer. -/
structure InOrder [Writer ω] (source : Source α) (ps : List (α → Passed α))
    (n : Network α ω) : Prop where
  linked : Linked source ps n.threads
  cancelled : ∀ t ts, n.threads = t :: ts → t.out.cancelled = hasLetGo n.consumer
  joining : n.consumer = .joining → ∀ t ts, n.threads = t :: ts → t.out.closed = true
  exhausted : n.consumer = .joining → n.exhausted = true
  receiving : n.consumer = .receiving → n.exhausted = false
  gone : n.consumer = .gone → ∀ t ts, n.threads = t :: ts → ∃ broke, t.position = .ended broke

lemma take_ok {c out : Channel α} {x : α} (h : c.take = (.ok x, out)) :
    c.slot = some x ∧ out = { c with slot := none } := by
  unfold Channel.take at h
  cases hs : c.slot with
  | some y =>
    rw [hs] at h
    cases h
    exact ⟨rfl, rfl⟩
  | none =>
    rw [hs] at h
    cases h

lemma take_error {c out : Channel α} {e : HandoffError} (h : c.take = (.error e, out))
    (hgo : c.receiverWaits = false) : c.slot = none ∧ c.closed = true := by
  unfold Channel.take at h
  cases hs : c.slot with
  | some y =>
    rw [hs] at h
    cases h
  | none =>
    refine ⟨rfl, ?_⟩
    simpa [Channel.receiverWaits, hs] using hgo

variable [Writer ω] {source : Source α} {ps : List (α → Passed α)} {n m : Network α ω}

lemma linked_start (source : Source α) (stages : List (Stage α ω)) :
    Linked source (stages.map passed) (start source stages).threads := by
  have hfresh : ∀ w : Worker α ω, Sound { worker := w } := fun w => ⟨nofun, rfl⟩
  induction stages with
  | nil => exact .source rfl rfl (hfresh _)
  | cons s stages ih =>
    have hstart : (start source (s :: stages)).threads =
        { worker := .stage s } :: (start source stages).threads := rfl
    rw [hstart]
    obtain ⟨u, ts, hthreads⟩ := ih.exists_cons
    have hu : u.out = {} := by
      cases stages <;> cases hthreads <;> rfl
    rw [hthreads] at ih ⊢
    refine .stage rfl (hfresh _) ⟨?_, nofun, nofun⟩ ih
    rw [hu]
    rfl

lemma inOrder_start (source : Source α) (stages : List (Stage α ω)) :
    InOrder source (stages.map passed) (start source stages) := by
  refine ⟨linked_start source stages, fun t ts h => ?_, nofun, nofun, nofun, nofun⟩
  cases stages <;> cases h <;> rfl

lemma InOrder.step (h : InOrder source ps n) (hstep : Step n m) : InOrder source ps m := by
  have hl := h.linked
  cases hstep with
  | thread hts =>
    have hmoves := moves_of_step hts
    obtain ⟨t, ts, hthreads⟩ := hl.exists_cons
    rw [hthreads] at hmoves
    obtain ⟨t', ts', rfl, hcancelled, hclosed⟩ := hmoves.head
    rw [hthreads] at hl
    refine ⟨hmoves.linked hl, ?_, ?_, h.exhausted, h.receiving, ?_⟩
    · rintro _ _ ⟨rfl, rfl⟩
      exact hcancelled.trans (h.cancelled t ts hthreads)
    · rintro hpos _ _ ⟨rfl, rfl⟩
      exact hclosed (h.joining hpos t ts hthreads)
    · rintro hpos _ _ ⟨rfl, rfl⟩
      obtain ⟨broke, ht⟩ := h.gone hpos t ts hthreads
      obtain ⟨ts'', hsame⟩ := hmoves.of_ended ht
      obtain ⟨rfl, rfl⟩ := List.cons.inj hsame
      exact ⟨broke, ht⟩
  | beginNext hpos hex =>
    refine ⟨hl, fun t ts hts => ?_, nofun, nofun, fun _ => hex, nofun⟩
    rw [h.cancelled t ts hts, hpos]
    rfl
  | nextAtEnd hpos _ => exact ⟨hl, h.cancelled, h.joining, h.exhausted, h.receiving, h.gone⟩
  | take t ts x out hpos hts _ htake =>
    obtain ⟨-, rfl⟩ := take_ok htake
    have hcancelled := h.cancelled t ts hts
    rw [hpos] at hcancelled
    rw [hts] at hl
    refine ⟨hl.withoutItem, ?_, nofun, nofun, nofun, nofun⟩
    rintro _ _ ⟨rfl, rfl⟩
    exact hcancelled
  | meetEnd t ts e out hpos hts hgo htake =>
    have hcancelled := h.cancelled t ts hts
    rw [hpos] at hcancelled
    refine ⟨hl, ?_, ?_, fun _ => rfl, nofun, nofun⟩
    · intro t' ts' hts'
      cases hts.symm.trans hts'
      exact hcancelled
    · intro _ t' ts' hts'
      cases hts.symm.trans hts'
      exact (take_error htake hgo).2
  | join t ts broke hpos hts _ =>
    refine ⟨hl, fun t ts hts => ?_, nofun, nofun, nofun, nofun⟩
    rw [h.cancelled t ts hts, hpos]
    rfl
  | letGo t ts hpos hts =>
    rw [hts] at hl
    refine ⟨hl.cancel, ?_, nofun, nofun, nofun, nofun⟩
    rintro _ _ ⟨rfl, rfl⟩
    rfl
  | await t ts broke hpos hts ht =>
    refine ⟨hl, fun t ts hts => ?_, nofun, nofun, nofun, fun _ t' ts' hts' => ?_⟩
    · rw [h.cancelled t ts hts, hpos]
      rfl
    · cases hts.symm.trans hts'
      exact ⟨broke, ht⟩

lemma InOrder.reaches (h : InOrder source ps n) (hrun : Reaches n m) : InOrder source ps m := by
  induction hrun with
  | refl => exact h
  | step _ hstep ih => exact ih.step hstep

lemma InOrder.ended (ho : InOrder source ps n) (hpos : n.consumer = .gone) : n.Ended := by
  obtain ⟨t, ts, hts⟩ := ho.linked.exists_cons
  obtain ⟨broke, ht⟩ := ho.gone hpos t ts hts
  have hl := ho.linked
  rw [hts] at hl
  rw [Network.Ended, hts]
  exact hl.ended ht

lemma InOrder.progress (h : InOrder source ps n) (hidle : n.consumer ≠ .idle)
    (hgone : n.consumer ≠ .gone) : ∃ m, Step n m := by
  obtain ⟨t, ts, hts⟩ := h.linked.exists_cons
  have hl := h.linked
  rw [hts] at hl
  rcases hl.progress with ⟨us, hus⟩ | ⟨broke, hended⟩ | hwaits
  · rw [← hts] at hus
    exact ⟨_, .thread n hus⟩
  · have hclosed := hl.sound.closed
    rw [hended] at hclosed
    cases hpos : n.consumer with
    | idle => exact absurd hpos hidle
    | gone => exact absurd hpos hgone
    | joining => exact ⟨_, .join n t ts broke hpos hts hended⟩
    | awaiting => exact ⟨_, .await n t ts broke hpos hts hended⟩
    | receiving =>
      have hnone : t.out.slot = none := hl.sound.slot_eq_none (by rw [hended]; nofun)
      refine ⟨_, .meetEnd n t ts .closed t.out hpos hts ?_ ?_⟩
      · rw [Channel.receiverWaits, hclosed]
        exact Bool.and_false _
      · rw [Channel.take, hnone]
  · obtain ⟨x, hx⟩ := hwaits.slot
    cases hpos : n.consumer with
    | idle => exact absurd hpos hidle
    | gone => exact absurd hpos hgone
    | receiving =>
      have htake : t.out.take = (.ok x, { t.out with slot := none }) := by
        rw [Channel.take, hx]
      refine ⟨_, .take n t ts x _ hpos hts ?_ htake⟩
      rw [Channel.receiverWaits, hx]
      rfl
    | joining =>
      have hclosed := hl.sound.closed
      rw [h.joining hpos t ts hts, hwaits.position] at hclosed
      cases hclosed
    | awaiting =>
      have hcancelled := h.cancelled t ts hts
      rw [hwaits.cancelled, hpos] at hcancelled
      cases hcancelled

end Network

end SourceSplice.Proofs
