import SourceSplice.Proofs.NetworkDelivery
/-!
# Letting go of a network at its end

Cancellation can stop a stage in the middle of its items, and what its taps have written depends on
the order of the steps then. Not so if the consumer lets go with nothing left to come: `Thorough`
says that a thread is let go, or leaves its loop, only when nothing more comes to it, and every step
keeps this. So the stages end as if each of them had been given all the items and then its end,
which is what `settled` reads off the threads at any time.
-/

namespace SourceSplice.Proofs
open Generator Generator.Network

variable {α ω : Type} [Writer ω]

section Threads

/-- Stages that make this of an item hand on every one. -/
def HandOn (ps : List (α → Passed α)) : Prop :=
  ∀ p ∈ ps, p = .item

/-- Nothing more comes of threads, nor of those in front of any of them. -/
def Quiet (items : List α) : List (Thread α ω) → Prop
  | [] => True
  | t :: ts => flow none items (t :: ts) = .ended none ∧ Quiet items ts

/-- Whether a thread has left its loop. -/
def hasLeft : ThreadAt α → Bool
  | .leaving _ | .releasing _ | .awaiting _ | .ended _ => true
  | _ => false

/-- No thread is let go, and none leaves its loop, while something comes to it. -/
def Thorough (items : List α) : List (Thread α ω) → Prop
  | [] => True
  | t :: ts =>
    (hasLeft t.position = true ∨ t.out.cancelled = true → Quiet items (t :: ts)) ∧
      Thorough items ts

/-- A stage after the end of its thread. -/
def closing (broke : Option String) (s : Stage α ω) : Stage α ω :=
  if broke.isNone then s.finish else s

/-- A stage after a flow has gone through it, if it hands on every item. -/
def endWith (s : Stage α ω) : Flow α → Stage α ω
  | .ended broke => closing broke s
  | .item x rest => endWith (s.push x).2 rest

/-- What a stage will be in the end, if its thread is there and this comes to it. -/
def settledStage (p : ThreadAt α) (s : Stage α ω) (below : Flow α) : Stage α ω :=
  match p with
  | .leaving broke => closing broke s
  | .releasing _ | .awaiting _ | .ended _ => s
  | .holding x => endWith (s.push x).2 below
  | _ => endWith s below

/-- What the stages of threads will be in the end, the last one first. -/
def settled (items : List α) : List (Thread α ω) → List (Stage α ω)
  | [] => []
  | t :: ts =>
    match t.worker with
    | .source _ _ => settled items ts
    | .stage s => settledStage t.position s (flow none items ts) :: settled items ts

variable {source : Source α} {items : List α} {p : α → Passed α} {ps : List (α → Passed α)}
  {t t' : Thread α ω} {ts us : List (Thread α ω)}

lemma HandOn.of_cons (h : HandOn (p :: ps)) : HandOn ps :=
  fun q hq => h q (List.mem_cons_of_mem p hq)

lemma HandOn.passed_eq {s : Stage α ω} (h : HandOn (passed s :: ps)) : passed s = .item :=
  h _ List.mem_cons_self

lemma through_item (f : Flow α) : f.through .item = f := by
  induction f with
  | ended broke => rfl
  | item x rest ih => rw [Flow.through, ih]

lemma settled_source {k : Nat} (hw : t.worker = .source source k) :
    settled items (t :: ts) = settled items ts := by
  rw [settled, hw]

lemma settled_stage {s : Stage α ω} (hw : t.worker = .stage s) :
    settled items (t :: ts) =
      settledStage t.position s (flow none items ts) :: settled items ts := by
  rw [settled, hw]

lemma settled_withOut (out : Channel α) :
    settled items ({ t with out := out } :: ts) = settled items (t :: ts) := by
  cases hw : t.worker <;> simp only [settled, hw]

lemma flow_leaving {failure broke : Option String} (hpos : t.position = .leaving broke) :
    flow failure items (t :: ts) = .ended broke := by
  cases hw : t.worker with
  | source s k => simp only [flow, handsOver, hw, hpos]
  | stage s => simp only [flow, handsOver, hw, hpos]

lemma Quiet.flow_eq (h : Quiet items ts) : flow none items ts = .ended none := by
  cases ts with
  | nil => rfl
  | cons t ts => exact h.1

lemma flow_eq_of_handsOver {s : Stage α ω} (hw : t.worker = .stage s) (hs : passed s = .item)
    (hstay : hasLeft t.position = false) {f : Flow α} (h : handsOver t f = .ended none) :
    f = .ended none := by
  have hmakes : makes t.worker = .item := by rw [hw]; exact hs
  cases hpos : t.position with
  | checking | pulling | joining =>
    simp only [handsOver, hpos, hmakes, through_item] at h
    exact h
  | holding x | offering x =>
    simp only [handsOver, hpos, hmakes, Flow.through] at h
    cases h
  | settling =>
    simp only [handsOver, hpos, hmakes, through_item] at h
    split at h
    · cases h
    · exact h
  | _ =>
    rw [hpos] at hstay
    cases hstay

lemma Thorough.quiet (hl : Linked source ps ts) (hps : HandOn ps) (hT : Thorough items ts)
    (h : flow none items ts = .ended none) : Quiet items ts := by
  induction hl with
  | source => exact ⟨h, trivial⟩
  | @stage t u ts s ps hw _ _ _ ih =>
    -- a thread that has left its loop hands over nothing, whatever may still come to it
    by_cases hleft : hasLeft t.position = true
    · exact hT.1 (.inl hleft)
    · refine ⟨h, ih hps.of_cons hT.2 ?_⟩
      rw [flow_stage hw] at h
      exact flow_eq_of_handsOver hw hps.passed_eq (Bool.not_eq_true _ ▸ hleft) h

lemma Quiet.cancel (h : Quiet items (t :: ts)) :
    Quiet items ({ t with out := t.out.cancel } :: ts) :=
  ⟨flow_cancel.trans h.1, h.2⟩

lemma Moves.quiet (hg : Gives source items none) (h : Moves ts us) (hl : Linked source ps ts)
    (hq : Quiet items ts) : Quiet items us := by
  induction h generalizing ps with
  | alone ts h =>
    refine ⟨?_, hq.2⟩
    rcases h.flow_eq hg hl with hsame | ⟨-, hpos⟩
    · exact hsame.trans hq.1
    · exact flow_leaving hpos
  | pulled t u s x ts hpos hw hx =>
    cases hl with
    | stage _ _ _ hl =>
      have hflow := hq.2.1
      rw [hl.flow_take hx] at hflow
      cases hflow
  | sawEnd t u s ts hpos hw =>
    refine ⟨?_, hq.2⟩
    rw [← hq.1, flow_goTo hw, flow_stage hw]
    simp only [handsOver, hpos]
  | joined t u broke ts hpos hu =>
    obtain rfl : broke = none := Flow.ended.inj ((flow_ended hu).symm.trans hq.2.1)
    exact ⟨flow_leaving rfl, hq.2⟩
  | released t u broke ts hpos =>
    cases hl with
    | stage hw =>
      refine ⟨?_, hq.2.cancel⟩
      rw [← hq.1, flow_goTo hw, flow_stage hw]
      simp only [handsOver, hpos]
  | awaited t u broke broke' ts hpos =>
    cases hl with
    | stage hw =>
      refine ⟨?_, hq.2⟩
      rw [← hq.1, flow_goTo hw, flow_stage hw]
      simp only [handsOver, hpos]
  | before t h ih =>
    cases hl with
    | source => cases h
    | stage hw _ _ hl =>
      have hus := ih hl hq.2
      refine ⟨?_, hus⟩
      rw [← hq.1, flow_stage hw, flow_stage hw, hus.flow_eq, hq.2.flow_eq]

lemma Moves.thorough (hg : Gives source items none) (h : Moves ts us) (hl : Linked source ps ts)
    (hps : HandOn ps) (hT : Thorough items ts) : Thorough items us := by
  induction h generalizing ps with
  | @alone t t' ts h =>
    refine ⟨fun hout => ?_, hT.2⟩
    by_cases hbefore : hasLeft t.position = true ∨ t.out.cancelled = true
    · exact (Moves.alone ts h).quiet hg hl (hT.1 hbefore)
    obtain ⟨hleft, hc⟩ := not_or.mp hbefore
    -- a thread that is still wanted leaves its loop only at the end of the source
    cases h with
    | goOn | drawn | handedOn | dropped | put | delivered =>
      exact absurd (hout.resolve_left nofun) hc
    | turnBack _ hc' => exact absurd hc' hc
    | refused _ _ hc' => exact absurd hc' hc
    | retracted _ hc' => exact absurd hc' hc
    | closedSource _ _ _ hpos => exact absurd (by rw [hpos]; rfl) hleft
    | closedStage _ _ _ hpos => exact absurd (by rw [hpos]; rfl) hleft
    | dry s k _ hw =>
      cases hl with
      | source hw' =>
        cases hw.symm.trans hw'
        exact ⟨flow_leaving (by rw [hg.failure]), trivial⟩
      | stage hw' => cases hw.symm.trans hw'
    | broke _ _ _ _ _ hw hpush =>
      cases hl with
      | source hw' => cases hw.symm.trans hw'
      | stage hw' =>
        cases hw.symm.trans hw'
        have hitem := (passed_of_push hpush).1
        rw [hps.passed_eq] at hitem
        cases hitem
  | pulled t u s x ts hpos hw hx =>
    cases hl with
    | stage _ _ _ hl =>
      have hnot : ¬Quiet items (u :: ts) := by
        intro hq
        have hflow := hq.1
        rw [hl.flow_take hx] at hflow
        cases hflow
      refine ⟨fun hout => ?_, fun hout => ?_, hT.2.2⟩
      · exact absurd (hT.1 (.inr (hout.resolve_left nofun))).2 hnot
      · exact absurd (hT.2.1 hout) hnot
  | sawEnd t u s ts hpos hw hslot hclosed =>
    refine ⟨fun hout => ?_, hT.2⟩
    have hq := hT.1 (.inr (hout.resolve_left nofun))
    exact (Moves.sawEnd t u s ts hpos hw hslot hclosed).quiet hg hl hq
  | joined t u broke ts hpos hu =>
    refine ⟨fun _ => ?_, hT.2⟩
    have hq := hT.2.1 (.inl (by rw [hu]; rfl))
    obtain rfl : broke = none := Flow.ended.inj ((flow_ended hu).symm.trans hq.1)
    exact ⟨flow_leaving rfl, hq⟩
  | released t u broke ts hpos =>
    have hq := hT.1 (.inl (by rw [hpos]; rfl))
    have hq' := (Moves.released t u broke ts hpos).quiet hg hl hq
    exact ⟨fun _ => hq', fun _ => hq'.2, hT.2.2⟩
  | awaited t u broke broke' ts hpos hu =>
    have hq := hT.1 (.inl (by rw [hpos]; rfl))
    exact ⟨fun _ => (Moves.awaited t u broke broke' ts hpos hu).quiet hg hl hq, hT.2⟩
  | before t h ih =>
    cases hl with
    | source => cases h
    | stage hw hs hj hl' =>
      exact ⟨fun hout => (Moves.before t h).quiet hg (.stage hw hs hj hl') (hT.1 hout),
        ih hl' hps.of_cons hT.2⟩

lemma Alone.settledStage_eq {s s' : Stage α ω} (h : Alone t t') (hw : t.worker = .stage s)
    (hw' : t'.worker = .stage s') (hs : passed s = .item) {f : Flow α}
    (hcancelled : t.out.cancelled = true → f = .ended none ∧ handsOver t f = .ended none) :
    settledStage t'.position s' f = settledStage t.position s f := by
  cases h with
  | drawn _ _ _ _ hsource => cases hw.symm.trans hsource
  | dry _ _ _ hsource => cases hw.symm.trans hsource
  | closedSource _ _ _ _ hsource => cases hw.symm.trans hsource
  | goOn hpos | delivered hpos =>
    cases hw.symm.trans hw'
    simp only [settledStage, hpos]
  | put x hpos =>
    cases hw.symm.trans hw'
    simp only [settledStage, hpos]
  | turnBack hpos hc | retracted hpos hc =>
    cases hw.symm.trans hw'
    simp only [settledStage, hpos, (hcancelled hc).1, endWith]
  | refused x hpos hc =>
    have hf := (hcancelled hc).2
    simp only [handsOver, hpos] at hf
    cases hf
  | handedOn s₀ s₁ x y hpos hw₀ hpush =>
    cases hw.symm.trans hw₀
    cases hw'
    simp only [settledStage, hpos, hpush]
  | dropped s₀ s₁ x hpos hw₀ hpush =>
    cases hw.symm.trans hw₀
    cases hw'
    simp only [settledStage, hpos, hpush]
  | broke s₀ s₁ x text hpos hw₀ hpush =>
    cases hw.symm.trans hw₀
    have hitem := (passed_of_push hpush).1
    rw [hs] at hitem
    cases hitem
  | closedStage s₀ s₁ broke hpos hw₀ _ hfinish =>
    cases hw.symm.trans hw₀
    cases hw'
    simp only [settledStage, hpos, hfinish, closing]

lemma Moves.settled_eq (hg : Gives source items none) (h : Moves ts us) (hl : Linked source ps ts)
    (hps : HandOn ps) (hT : Thorough items ts) : settled items us = settled items ts := by
  induction h generalizing ps with
  | alone ts h =>
    cases hl with
    | source hw =>
      obtain ⟨k, hw', -⟩ := h.of_source hw
      rw [settled_source hw, settled_source hw']
    | stage hw =>
      obtain ⟨s', hw', -⟩ := h.of_stage hw
      rw [settled_stage hw, settled_stage hw', h.settledStage_eq hw hw' hps.passed_eq]
      intro hc
      have hq := hT.1 (.inr hc)
      rw [← flow_stage hw]
      exact ⟨hq.2.flow_eq, hq.1⟩
  | pulled t u s x ts hpos hw hx =>
    cases hl with
    | stage _ _ _ hl =>
      rw [settled_stage (t := { t with position := .holding x }) hw, settled_stage hw,
        settled_withOut, hl.flow_take hx, hpos]
      rfl
  | sawEnd t u s ts hpos hw =>
    rw [settled_stage (t := { t with position := .joining }) hw, settled_stage hw, hpos]
    rfl
  | joined t u broke ts hpos hu =>
    cases hl with
    | stage hw =>
      rw [settled_stage (t := { t with position := .leaving broke }) hw, settled_stage hw,
        flow_ended hu, hpos]
      rfl
  | released t u broke ts hpos =>
    cases hl with
    | stage hw =>
      rw [settled_stage (t := { t with position := .awaiting broke }) hw, settled_stage hw,
        settled_withOut, hpos]
      rfl
  | awaited t u broke broke' ts hpos =>
    cases hl with
    | stage hw =>
      rw [settled_stage (t := { t with position := .ended broke }) hw, settled_stage hw, hpos]
      rfl
  | before t h ih =>
    cases hl with
    | source => cases h
    | @stage _ u ts' _ _ hw _ hj hl =>
      rw [settled_stage hw, settled_stage hw, ih hl hps.of_cons hT.2]
      congr 1
      -- what comes to a thread that has let go of the ones before it does not matter any more
      cases hreleased : hasReleased t.position with
      | true =>
        cases hpos : t.position with
        | awaiting broke | ended broke => rfl
        | _ =>
          rw [hpos] at hreleased
          cases hreleased
      | false =>
        rw [h.flow_eq hg hl]
        rintro _ _ ⟨rfl, rfl⟩
        exact hj.cancelled.trans hreleased

lemma settled_of_ended (h : ∀ t ∈ ts, ∃ broke, t.position = .ended broke) :
    settled items ts = ts.filterMap fun t => t.worker.stage? := by
  induction ts with
  | nil => rfl
  | cons t ts ih =>
    obtain ⟨broke, hpos⟩ := h t List.mem_cons_self
    have hts := ih fun u hu => h u (List.mem_cons_of_mem t hu)
    cases hw : t.worker with
    | source s k =>
      rw [settled_source hw, hts, List.filterMap_cons_none (by rw [hw]; rfl)]
    | stage s =>
      rw [settled_stage hw, hts, hpos, List.filterMap_cons_some (by rw [hw]; rfl)]
      rfl

end Threads

section Network

variable {source : Source α} {items : List α} {ps : List (α → Passed α)} {n m : Network α ω}
  {stages : List (Stage α ω)}

/-- A network whose stages will be these in the end, unless its consumer lets go while something is
left to come. -/
structure Completing (items : List α) (stages : List (Stage α ω)) (n : Network α ω) : Prop where
  threads : (hasLetGo n.consumer = true →
      ∀ k, (Flow.ofList none items).draw (n.seen.length + k) = none) →
    Thorough items n.threads ∧ settled items n.threads = stages
  ended : n.exhausted = true → n.consumer ≠ .joining → ∀ t ts, n.threads = t :: ts →
    ∃ broke, t.position = .ended broke

lemma flow_of_draw {f : Flow α} (h : f.draw 0 = none) : f = .ended none := by
  cases f with
  | item x rest => cases h
  | ended broke =>
    cases broke with
    | none => rfl
    | some text => cases h

lemma Completing.quiet (ho : InOrder source ps n) (hps : HandOn ps)
    (hd : Delivering none items (Flow.ofList none items) n) (h : Completing items stages n)
    (hpos : n.consumer = .idle)
    (hall : ∀ k, (Flow.ofList none items).draw (n.seen.length + k) = none) :
    Quiet items n.threads := by
  obtain ⟨hT, -⟩ := h.threads fun hgone => by rw [hpos] at hgone; cases hgone
  cases hex : n.exhausted with
  | true =>
    obtain ⟨t, ts, hts⟩ := ho.linked.exists_cons
    obtain ⟨broke, ht⟩ := h.ended hex (by rw [hpos]; nofun) t ts hts
    rw [hts] at hT ⊢
    exact hT.1 (.inl (by rw [ht]; rfl))
  | false =>
    refine hT.quiet ho.linked hps (flow_of_draw ?_)
    rw [← hd.ahead (by rw [hpos]; rfl) (fun he => by cases hex.symm.trans he) 0, hall]

lemma Completing.step (hg : Gives source items none) (ho : InOrder source ps n) (hps : HandOn ps)
    (hd : Delivering none items (Flow.ofList none items) n) (h : Completing items stages n)
    (hstep : Step n m) : Completing items stages m := by
  have hkept : hasLetGo n.consumer = false →
      Thorough items n.threads ∧ settled items n.threads = stages :=
    fun hc => h.threads fun hgone => by rw [hc] at hgone; cases hgone
  cases hstep with
  | thread hts =>
    have hmoves := moves_of_step hts
    refine ⟨fun hall => ?_, fun hex hne t ts hthreads => ?_⟩
    · obtain ⟨hT, hsettled⟩ := h.threads hall
      exact ⟨hmoves.thorough hg ho.linked hps hT,
        (hmoves.settled_eq hg ho.linked hps hT).trans hsettled⟩
    · obtain ⟨t₀, ts₀, hts₀⟩ := ho.linked.exists_cons
      obtain ⟨broke, ht₀⟩ := h.ended hex hne t₀ ts₀ hts₀
      rw [hts₀] at hmoves
      obtain ⟨ts', hsame⟩ := hmoves.of_ended ht₀
      cases hthreads.symm.trans hsame
      exact ⟨broke, ht₀⟩
  | beginNext hpos hex =>
    refine ⟨fun _ => hkept (by rw [hpos]; rfl), fun he => ?_⟩
    cases hex.symm.trans he
  | nextAtEnd hpos =>
    exact ⟨fun _ => hkept (by rw [hpos]; rfl), h.ended⟩
  | take t ts x out hpos hts _ htake =>
    obtain ⟨hx, rfl⟩ := take_ok htake
    obtain ⟨hT, hsettled⟩ := hkept (by rw [hpos]; rfl)
    have hl := ho.linked
    have hc := ho.cancelled t ts hts
    rw [hts] at hT hsettled hl
    rw [hpos] at hc
    refine ⟨fun _ => ⟨⟨fun hout => ?_, hT.2⟩, (settled_withOut _).trans hsettled⟩, fun he => ?_⟩
    · rcases hout with hleft | hcancelled
      · rw [hl.sound.slot x hx] at hleft
        cases hleft
      · cases hc.symm.trans hcancelled
    · cases (ho.receiving hpos).symm.trans he
  | meetEnd t ts e out hpos =>
    exact ⟨fun _ => hkept (by rw [hpos]; rfl), fun _ hne => absurd rfl hne⟩
  | join t ts broke hpos hts ht =>
    refine ⟨fun _ => hkept (by rw [hpos]; rfl), fun _ _ t' ts' hts' => ?_⟩
    cases hts.symm.trans hts'
    exact ⟨broke, ht⟩
  | letGo t ts hpos hts =>
    -- the only step that cancels a thread from outside: here nothing may be under way
    obtain ⟨hT, hsettled⟩ := hkept (by rw [hpos]; rfl)
    refine ⟨fun hall => ?_, fun he _ t' ts' hts' => ?_⟩
    · have hq := h.quiet ho hps hd hpos (hall rfl)
      rw [hts] at hq hT hsettled
      exact ⟨⟨fun _ => hq.cancel, hT.2⟩, (settled_withOut _).trans hsettled⟩
    · cases hts'
      exact h.ended he (by rw [hpos]; nofun) t ts hts
  | await t ts broke hpos hts ht =>
    refine ⟨fun hall => h.threads fun _ => hall rfl, fun he _ => h.ended he (by rw [hpos]; nofun)⟩

lemma Completing.reaches (hg : Gives source items none) (ho : InOrder source ps n)
    (hps : HandOn ps) (hd : Delivering none items (Flow.ofList none items) n)
    (h : Completing items stages n) (hrun : Reaches n m) : Completing items stages m := by
  induction hrun with
  | refl => exact h
  | step hrun hstep ih =>
    have hd' : Delivering none items (Flow.ofList none items) _ := hd.reaches hg ho hrun
    exact ih.step hg (ho.reaches hrun) hps hd' hstep

lemma HandOn.reverse (h : HandOn (stages.map passed)) : HandOn (stages.reverse.map passed) := by
  intro p hp
  rw [List.map_reverse] at hp
  exact h p (List.mem_reverse.mp hp)

lemma HandOn.byAll (h : HandOn ps) : Passed.byAll ps = .item := by
  induction ps with
  | nil => rfl
  | cons p ps ih =>
    funext x
    rw [Passed.byAll, h p List.mem_cons_self, Passed.andThen, ih h.of_cons]

lemma HandOn.outcome_eq (h : HandOn (stages.map passed)) :
    outcome none stages items = Flow.ofList none items := by
  rw [outcome_eq_through, h.byAll, through_item]

lemma flow_start_handOn (hps : HandOn (stages.map passed)) :
    flow none items (start source stages).threads = Flow.ofList none items := by
  rw [flow_start, hps.reverse.outcome_eq]

lemma delivering_start_handOn (source : Source α) (items : List α)
    (hps : HandOn (stages.map passed)) :
    Delivering none items (Flow.ofList none items) (start source stages) := by
  rw [← hps.reverse.outcome_eq]
  exact delivering_start source items none stages

lemma settled_start (hps : HandOn (stages.map passed)) :
    Thorough items (start source stages).threads ∧
      settled items (start source stages).threads =
        stages.map fun s => endWith s (Flow.ofList none items) := by
  induction stages with
  | nil => exact ⟨⟨nofun, trivial⟩, rfl⟩
  | cons s stages ih =>
    obtain ⟨hT, hsettled⟩ := ih hps.of_cons
    have hstart : (start source (s :: stages)).threads =
        { worker := .stage s } :: (start source stages).threads := rfl
    rw [hstart]
    refine ⟨⟨nofun, hT⟩, ?_⟩
    rw [settled_stage rfl, hsettled, flow_start_handOn hps.of_cons]
    rfl

lemma completing_start (hps : HandOn (stages.map passed)) :
    Completing items (stages.map fun s => endWith s (Flow.ofList none items))
      (start source stages) :=
  ⟨fun _ => settled_start hps, nofun⟩

lemma stages_of_ended (hg : Gives source items none) (hps : HandOn (stages.map passed))
    (hrun : Reaches (start source stages.reverse) m) (hended : m.Ended)
    (hall : ∀ k, (Flow.ofList none items).draw (m.seen.length + k) = none) :
    m.stages = stages.map fun s => endWith s (Flow.ofList none items) := by
  have ho := inOrder_start source stages.reverse
  have hd := delivering_start_handOn source items hps.reverse
  obtain ⟨-, hsettled⟩ :=
    ((completing_start hps.reverse).reaches hg ho hps.reverse hd hrun).threads fun _ => hall
  rw [settled_of_ended hended] at hsettled
  rw [Network.stages, hsettled, List.map_reverse, List.reverse_reverse]

/-- Whoever was given nothing has met the end. -/
def NothingAtEnd (n : Network α ω) : Prop :=
  none ∈ n.seen → n.exhausted = true ∧ n.consumer ≠ .joining

lemma NothingAtEnd.step (ho : InOrder source ps n) (h : NothingAtEnd n) (hstep : Step n m) :
    NothingAtEnd m := by
  have hdrawing (hpos : n.consumer = .receiving) : none ∉ n.seen := fun hmem => by
    cases (ho.receiving hpos).symm.trans (h hmem).1
  cases hstep with
  | thread hts => exact h
  | beginNext hpos hex =>
    intro hmem
    cases hex.symm.trans (h hmem).1
  | nextAtEnd hpos hex => exact fun _ => ⟨hex, by rw [hpos]; nofun⟩
  | take t ts x out hpos =>
    intro hmem
    rcases List.mem_append.mp hmem with hmem | hmem
    · exact absurd hmem (hdrawing hpos)
    · cases List.mem_singleton.mp hmem
  | meetEnd t ts e out hpos => exact fun hmem => absurd hmem (hdrawing hpos)
  | join t ts broke hpos => exact fun _ => ⟨ho.exhausted hpos, nofun⟩
  | letGo t ts hpos => exact fun hmem => ⟨(h hmem).1, nofun⟩
  | await t ts broke hpos => exact fun hmem => ⟨(h hmem).1, nofun⟩

lemma NothingAtEnd.reaches (ho : InOrder source ps n) (h : NothingAtEnd n) (hrun : Reaches n m) :
    NothingAtEnd m := by
  induction hrun with
  | refl => exact h
  | step hrun hstep ih => exact ih.step (ho.reaches hrun) hstep

lemma ended_of_seen_none (hg : Gives source items none) (hps : HandOn (stages.map passed))
    (hrun : Reaches (start source stages.reverse) m) (hmem : none ∈ m.seen) : m.Ended := by
  have ho := inOrder_start source stages.reverse
  have hd := delivering_start_handOn source items hps.reverse
  have hstart : NothingAtEnd (start source stages.reverse) := nofun
  obtain ⟨hex, hne⟩ := hstart.reaches ho hrun hmem
  have hl := (ho.reaches hrun).linked
  obtain ⟨t, ts, hts⟩ := hl.exists_cons
  obtain ⟨broke, ht⟩ :=
    ((completing_start hps.reverse).reaches hg ho hps.reverse hd hrun).ended hex hne t ts hts
  rw [hts] at hl
  rw [Network.Ended, hts]
  exact hl.ended ht

end Network

end SourceSplice.Proofs
