import SourceSplice.Proofs.ChainDelivery
import SourceSplice.Proofs.NetworkInvariant
/-!
# What is under way in a network

`flow` reads off the threads of a network what they still have to hand over, with the items that are
under way in them. No step changes it, and a draw takes the first item off it. That a stage breaks
off while the ones before it run on makes no difference: what they do then does not belong to the
flow any more.
-/

namespace SourceSplice.Proofs
open Generator Generator.Network

variable {α ω : Type} [Writer ω]

section Flow

/-- What a worker makes of an item that comes to it. -/
def makes : Worker α ω → α → Passed α
  | .source _ _ => .item
  | .stage s => passed s

/-- What a thread hands over from now on, if this is what comes to it. -/
def handsOver (t : Thread α ω) (below : Flow α) : Flow α :=
  match t.position with
  | .checking | .pulling | .joining => below.through (makes t.worker)
  | .holding x => (Flow.item x below).through (makes t.worker)
  | .offering x => .item x (below.through (makes t.worker))
  | .settling =>
    match t.out.slot with
    | some x => .item x (below.through (makes t.worker))
    | none => below.through (makes t.worker)
  | .leaving broke | .releasing broke | .awaiting broke | .ended broke => .ended broke

/-- What threads hand over from now on, if these are the items of their source. -/
def flow (failure : Option String) (items : List α) : List (Thread α ω) → Flow α
  | [] => .ended failure
  | t :: ts =>
    match t.worker with
    | .source _ k => handsOver t (Flow.ofList failure (items.drop k))
    | .stage _ => handsOver t (flow failure items ts)

variable {source : Source α} {items : List α} {failure : Option String} {ps : List (α → Passed α)}
  {t t' : Thread α ω} {ts us : List (Thread α ω)}

lemma flow_source {k : Nat} (hw : t.worker = .source source k) :
    flow failure items (t :: ts) = handsOver t (Flow.ofList failure (items.drop k)) := by
  rw [flow, hw]

lemma flow_stage {s : Stage α ω} (hw : t.worker = .stage s) :
    flow failure items (t :: ts) = handsOver t (flow failure items ts) := by
  rw [flow, hw]

lemma flow_goTo {s : Stage α ω} (hw : t.worker = .stage s) (p : ThreadAt α)
    (us : List (Thread α ω)) : flow failure items ({ t with position := p } :: us) =
      handsOver { t with position := p } (flow failure items us) :=
  flow_stage hw

lemma Alone.handsOver_stage {s : Stage α ω} (h : Alone t t') (hw : t.worker = .stage s)
    (f : Flow α) : handsOver t' f = handsOver t f ∨
      t.out.cancelled = true ∧ t'.position = .leaving none := by
  cases h with
  | goOn hpos => left; simp only [handsOver, hpos]
  | turnBack _ hc => exact .inr ⟨hc, rfl⟩
  | drawn _ _ _ _ hw' => cases hw.symm.trans hw'
  | dry _ _ _ hw' => cases hw.symm.trans hw'
  | handedOn _ _ _ _ hpos hw' hpush =>
    obtain ⟨hx, hsame⟩ := passed_of_push hpush
    left
    simp only [handsOver, hpos, hw', makes, Flow.through, hx, hsame]
  | dropped _ _ _ hpos hw' hpush =>
    obtain ⟨hx, hsame⟩ := passed_of_push hpush
    left
    simp only [handsOver, hpos, hw', makes, Flow.through, hx, hsame]
  | broke _ _ _ _ hpos hw' hpush =>
    obtain ⟨hx, hsame⟩ := passed_of_push hpush
    left
    simp only [handsOver, hpos, hw', makes, Flow.through, hx]
  | put x hpos => left; simp only [handsOver, hpos]
  | refused _ _ hc => exact .inr ⟨hc, rfl⟩
  | delivered hpos hslot => left; simp only [handsOver, hpos, hslot]
  | retracted _ hc => exact .inr ⟨hc, rfl⟩
  | closedSource _ _ _ _ hw' => cases hw.symm.trans hw'
  | closedStage _ _ _ hpos => left; simp only [handsOver, hpos]

lemma Alone.flow_eq_source {k : Nat} (hg : Gives source items failure) (h : Alone t t')
    (hw : t.worker = .source source k) :
    flow failure items (t' :: ts) = flow failure items (t :: ts) ∨
      t.out.cancelled = true ∧ t'.position = .leaving none := by
  rw [flow_source hw]
  cases h with
  | goOn hpos => left; simp only [flow, handsOver, hw, hpos]
  | turnBack _ hc => exact .inr ⟨hc, rfl⟩
  | drawn s j x hpos hw' hx =>
    cases hw.symm.trans hw'
    obtain ⟨hlt, hget⟩ := List.getElem?_eq_some_iff.mp ((hg.item k).symm.trans hx)
    left
    rw [List.drop_eq_getElem_cons hlt, hget]
    simp only [flow, handsOver, hw, hpos, makes, Flow.ofList, Flow.through]
  | dry s j hpos hw' hx =>
    cases hw.symm.trans hw'
    have hge := List.getElem?_eq_none_iff.mp ((hg.item k).symm.trans hx)
    left
    rw [List.drop_eq_nil_of_le hge]
    simp only [flow, handsOver, hw, hpos, Flow.ofList, Flow.through, hg.failure]
  | handedOn _ _ _ _ _ hw' => cases hw.symm.trans hw'
  | dropped _ _ _ _ hw' => cases hw.symm.trans hw'
  | broke _ _ _ _ _ hw' => cases hw.symm.trans hw'
  | put x hpos => left; simp only [flow, handsOver, hw, hpos]
  | refused _ _ hc => exact .inr ⟨hc, rfl⟩
  | delivered hpos hslot => left; simp only [flow, handsOver, hw, hpos, hslot]
  | retracted _ hc => exact .inr ⟨hc, rfl⟩
  | closedSource _ _ _ hpos => left; simp only [flow, handsOver, hw, hpos]
  | closedStage _ _ _ _ hw' => cases hw.symm.trans hw'

lemma Alone.flow_eq (hg : Gives source items failure) (h : Alone t t')
    (hl : Linked source ps (t :: ts)) :
    flow failure items (t' :: ts) = flow failure items (t :: ts) ∨
      t.out.cancelled = true ∧ t'.position = .leaving none := by
  cases hl with
  | source hw _ _ => exact h.flow_eq_source hg hw
  | stage hw _ _ _ =>
    obtain ⟨s', hw', -⟩ := h.of_stage hw
    rw [flow_stage hw, flow_stage hw']
    exact h.handsOver_stage hw _

lemma Linked.flow_take (hl : Linked source ps (t :: ts)) {x : α} (hx : t.out.slot = some x) :
    flow failure items (t :: ts) =
      .item x (flow failure items ({ t with out := { t.out with slot := none } } :: ts)) := by
  have hpos := hl.sound.slot x hx
  cases hw : t.worker with
  | source s k => simp only [flow, handsOver, hw, hpos, hx]
  | stage s => simp only [flow, handsOver, hw, hpos, hx]

lemma flow_ended {broke : Option String} (hpos : t.position = .ended broke) :
    flow failure items (t :: ts) = .ended broke := by
  cases hw : t.worker with
  | source s k => simp only [flow, handsOver, hw, hpos]
  | stage s => simp only [flow, handsOver, hw, hpos]

lemma flow_cancel : flow failure items ({ t with out := t.out.cancel } :: ts) =
    flow failure items (t :: ts) := by
  cases hw : t.worker <;> simp only [flow, handsOver, hw, Channel.cancel]

lemma flow_released {us : List (Thread α ω)} {s : Stage α ω} (hw : t.worker = .stage s)
    (hreleased : hasReleased t.position = true) :
    flow failure items (t :: us) = flow failure items (t :: ts) := by
  rw [flow_stage hw, flow_stage hw]
  cases hpos : t.position with
  | awaiting broke => simp only [handsOver, hpos]
  | ended broke => simp only [handsOver, hpos]
  | _ =>
    rw [hpos] at hreleased
    cases hreleased

lemma Moves.flow_eq (hg : Gives source items failure) (h : Moves ts us)
    (hl : Linked source ps ts) (hcancelled : ∀ t ts', ts = t :: ts' → t.out.cancelled = false) :
    flow failure items us = flow failure items ts := by
  induction h generalizing ps with
  | alone ts h =>
    refine (h.flow_eq hg hl).resolve_right ?_
    rintro ⟨hc, -⟩
    cases hc.symm.trans (hcancelled _ _ rfl)
  | pulled t u s x ts hpos hw hx =>
    cases hl with
    | stage _ _ _ hl =>
      rw [flow_goTo hw, flow_stage hw, hl.flow_take hx]
      simp only [handsOver, hpos]
  | sawEnd t u s ts hpos hw =>
    rw [flow_goTo hw, flow_stage hw]
    simp only [handsOver, hpos]
  | joined t u broke ts hpos hu =>
    cases hl with
    | stage hw _ _ _ =>
      rw [flow_goTo hw, flow_stage hw, flow_ended hu]
      simp only [handsOver, hpos, Flow.through]
  | released t u broke ts hpos =>
    cases hl with
    | stage hw _ _ _ =>
      rw [flow_goTo hw, flow_stage hw, flow_cancel]
      simp only [handsOver, hpos]
  | awaited t u broke broke' ts hpos hu =>
    cases hl with
    | stage hw _ _ _ =>
      rw [flow_goTo hw, flow_stage hw]
      simp only [handsOver, hpos]
  | before t h ih =>
    cases hl with
    | source => cases h
    | @stage _ u ts' _ _ hw _ hj hl =>
      -- once a thread has let go, it does not matter what still comes of the ones before it
      by_cases hreleased : hasReleased t.position = true
      · exact flow_released hw hreleased
      · have hc : u.out.cancelled = false :=
          hj.cancelled.trans (Bool.eq_false_iff.mpr hreleased)
        rw [flow_stage hw, flow_stage hw, ih hl]
        rintro _ _ ⟨rfl, rfl⟩
        exact hc

end Flow

section Draws

variable {source : Source α} {items : List α} {failure : Option String} {ps : List (α → Passed α)}
  {n m : Network α ω} {f : Flow α}

/-- The draws so far gave what stands first in a flow, and the rest of it is still to come. -/
structure Delivering (failure : Option String) (items : List α) (f : Flow α)
    (n : Network α ω) : Prop where
  seen : ∀ (k : Nat) d, n.seen[k]? = some d → d = f.draw k
  ahead : hasLetGo n.consumer = false → (n.exhausted = true → n.consumer = .joining) →
    ∀ k, f.draw (n.seen.length + k) = (flow failure items n.threads).draw k
  atEnd : n.exhausted = true → n.consumer ≠ .joining → ∀ k, f.draw (n.seen.length + k) = none

lemma seen_concat {seen : List (Option (Except String α))} {d : Option (Except String α)}
    (hseen : ∀ (k : Nat) d, seen[k]? = some d → d = f.draw k) (hd : d = f.draw seen.length)
    (k : Nat) (d' : Option (Except String α)) (hk : (seen ++ [d])[k]? = some d') :
    d' = f.draw k := by
  rcases Nat.lt_trichotomy k seen.length with hlt | rfl | hgt
  · rw [List.getElem?_append_left hlt] at hk
    exact hseen k d' hk
  · rw [List.getElem?_concat_length] at hk
    exact (Option.some.inj hk).symm.trans hd
  · rw [List.getElem?_eq_none (by rw [List.length_append]; exact hgt)] at hk
    cases hk

lemma Delivering.step (hg : Gives source items failure) (ho : InOrder source ps n)
    (h : Delivering failure items f n) (hstep : Step n m) : Delivering failure items f m := by
  have hl := ho.linked
  cases hstep with
  | thread hts =>
    refine ⟨h.seen, fun hkept hahead k => ?_, h.atEnd⟩
    have hcancelled : ∀ t ts, n.threads = t :: ts → t.out.cancelled = false :=
      fun t ts hts => (ho.cancelled t ts hts).trans hkept
    rw [(moves_of_step hts).flow_eq hg hl hcancelled]
    exact h.ahead hkept hahead k
  | beginNext hpos hex =>
    refine ⟨h.seen, fun _ _ k => h.ahead (by rw [hpos]; rfl) (fun he => ?_) k, fun he => ?_⟩
    · cases hex.symm.trans he
    · cases hex.symm.trans he
  | nextAtEnd hpos hex =>
    have hend := h.atEnd hex (by rw [hpos]; nofun)
    refine ⟨seen_concat h.seen (hend 0).symm, fun _ hahead => ?_, fun _ _ k => ?_⟩
    · cases hpos.symm.trans (hahead hex)
    · rw [List.length_append, Nat.add_assoc]
      exact hend (_ + k)
  | take t ts x out hpos hts _ htake =>
    obtain ⟨hx, rfl⟩ := take_ok htake
    have hex := ho.receiving hpos
    have hahead := h.ahead (by rw [hpos]; rfl) fun he => by cases hex.symm.trans he
    rw [hts] at hl
    rw [hts, hl.flow_take hx] at hahead
    refine ⟨seen_concat h.seen (hahead 0).symm, fun _ _ k => ?_, fun he => ?_⟩
    · rw [List.length_append, Nat.add_assoc, Nat.add_comm _ k]
      exact hahead (k + 1)
    · cases hex.symm.trans he
  | meetEnd t ts e out hpos hts hgo htake =>
    have hex := ho.receiving hpos
    refine ⟨h.seen, fun _ _ => h.ahead (by rw [hpos]; rfl) fun he => ?_, fun _ hne => ?_⟩
    · cases hex.symm.trans he
    · exact absurd rfl hne
  | join t ts broke hpos hts ht =>
    have hahead := h.ahead (by rw [hpos]; rfl) fun _ => hpos
    rw [hts, flow_ended ht] at hahead
    refine ⟨seen_concat h.seen (hahead 0).symm, fun _ hidle => ?_, fun _ _ k => ?_⟩
    · cases hidle (ho.exhausted hpos)
    · rw [List.length_append, Nat.add_assoc, Nat.add_comm _ k]
      exact hahead (k + 1)
  | letGo t ts hpos hts =>
    exact ⟨h.seen, nofun, fun he _ => h.atEnd he (by rw [hpos]; nofun)⟩
  | await t ts broke hpos hts ht =>
    exact ⟨h.seen, nofun, fun he _ => h.atEnd he (by rw [hpos]; nofun)⟩

lemma flow_start (stages : List (Stage α ω)) :
    flow failure items (start source stages).threads = outcome failure stages.reverse items := by
  induction stages with
  | nil =>
    have hsource : flow failure items (start (ω := ω) source []).threads =
        (Flow.ofList failure items).through .item := rfl
    rw [hsource, outcome_eq_through]
    rfl
  | cons s stages ih =>
    rw [List.reverse_cons, outcome_concat, ← ih]
    rfl

lemma delivering_start (source : Source α) (items : List α) (failure : Option String)
    (stages : List (Stage α ω)) :
    Delivering failure items (outcome failure stages.reverse items) (start source stages) := by
  refine ⟨nofun, fun _ _ k => ?_, nofun⟩
  rw [flow_start]
  exact congrArg _ (Nat.zero_add k)

end Draws

end SourceSplice.Proofs
