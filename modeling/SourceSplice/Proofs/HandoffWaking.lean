import SourceSplice.Proofs.HandoffDelivery
/-!
# Who wakes whom on a channel

A thread falls asleep only if it has to wait, and whoever ends its wait wakes it: at once if it
still has access to the channel, and else in a step of its own. `Wakeful` is the invariant. So
neither thread sleeps while the other one does or is gone.
-/

namespace SourceSplice.Proofs
open Handoff Handoff.Threads

variable {α : Type} {t u : Threads α}

/-- The sending thread has let go of the channel until it is told that the slot is free. -/
def SenderAsleep : SenderAt α → Prop
  | .asleepOffering _ => True
  | .asleepSettling => True
  | _ => False

/-- The channel is cancelled, and the receiving thread has still to wake the sender. -/
def WakesSender (r : ReceiverAt) : Prop :=
  ∃ thenGo, r = .cancelling thenGo

@[simp] lemma not_senderAsleep_wakeSender (s : SenderAt α) : ¬ SenderAsleep (wakeSender s) := by
  cases s <;> exact id

@[simp] lemma wakeReceiver_ne_asleep (r : ReceiverAt) : wakeReceiver r ≠ .asleep := by
  cases r <;> nofun

lemma wakeSender_of_awake {s : SenderAt α} (h : ¬ SenderAsleep s) : wakeSender s = s := by
  cases s with
  | asleepOffering x => exact absurd trivial h
  | asleepSettling => exact absurd trivial h
  | _ => rfl

lemma wakeReceiver_of_awake {r : ReceiverAt} (h : r ≠ .asleep) : wakeReceiver r = r := by
  cases r with
  | asleep => exact absurd rfl h
  | _ => rfl

lemma closing_wakeSender_iff {s : SenderAt α} :
    (wakeSender s = .leaving ∨ wakeSender s = .gone) ↔ (s = .leaving ∨ s = .gone) := by
  cases s <;> simp [wakeSender]

lemma cancelling_wakeReceiver_iff {r : ReceiverAt} :
    (WakesSender (wakeReceiver r) ∨ wakeReceiver r = .gone) ↔ (WakesSender r ∨ r = .gone) := by
  cases r <;> simp [WakesSender, wakeReceiver]

lemma wakeSender_eq_leaving_iff {s : SenderAt α} : wakeSender s = .leaving ↔ s = .leaving := by
  cases s <;> simp [wakeSender]

lemma wakesSender_wakeReceiver_iff {r : ReceiverAt} :
    WakesSender (wakeReceiver r) ↔ WakesSender r := by
  cases r <;> simp [WakesSender, wakeReceiver]

/-- A thread that sleeps has to wait, or the other one is about to wake it. -/
structure Wakeful (t : Threads α) : Prop where
  sender : SenderAsleep t.sender → t.channel.senderWaits = true ∨ WakesSender t.receiver
  receiver : t.receiver = .asleep → t.channel.receiverWaits = true ∨ t.sender = .leaving
  cancelled : WakesSender t.receiver ∨ t.receiver = .gone → t.channel.cancelled = true
  closed : t.sender = .leaving ∨ t.sender = .gone → t.channel.closed = true

lemma offer_cases (t : Threads α) (x : α) :
    (t.channel.senderWaits = true ∧ t.offer x = { t with sender := .asleepOffering x }) ∨
    (t.channel.cancelled = true ∧
      t.offer x = { t with sender := .idle, results := t.results ++ [.error .cancelled] }) ∨
    (t.channel.cancelled = false ∧
      t.offer x = { t with
        channel := { t.channel with slot := some x }, sender := .asleepSettling
        receiver := wakeReceiver t.receiver }) := by
  unfold offer
  by_cases hwaits : t.channel.senderWaits = true
  · exact .inl ⟨hwaits, if_pos hwaits⟩
  · rw [if_neg hwaits]
    by_cases hcan : t.channel.cancelled = true
    · simp [Channel.offer, hcan]
    · simp [Channel.offer, hcan]

lemma settle_cases (t : Threads α) :
    (t.channel.senderWaits = true ∧ t.settle = { t with sender := .asleepSettling }) ∨
    (t.channel.senderWaits = false ∧ ∃ result,
      t.settle = { t with
        channel := { t.channel with slot := none }, sender := .idle
        results := t.results ++ [result] }) := by
  unfold settle
  cases hwaits : t.channel.senderWaits with
  | true => exact .inl ⟨rfl, rfl⟩
  | false =>
    refine .inr ⟨rfl, t.channel.settle.1, ?_⟩
    unfold Channel.settle
    cases hslot : t.channel.slot with
    | some x => rfl
    | none => simp [← hslot]

lemma receive_cases (t : Threads α) :
    (t.channel.receiverWaits = true ∧ t.receive = { t with receiver := .asleep }) ∨
    (t.channel.slot = none ∧ t.channel.closed = true ∧
      t.receive = { t with receiver := .idle, receipts := t.receipts ++ [.error .closed] }) ∨
    (∃ x, t.channel.slot = some x ∧
      t.receive = { t with
        channel := { t.channel with slot := none }, receiver := .idle
        sender := wakeSender t.sender, receipts := t.receipts ++ [.ok x] }) := by
  unfold receive Channel.receiverWaits Channel.take
  cases hslot : t.channel.slot with
  | some x => exact .inr (.inr ⟨x, rfl, rfl⟩)
  | none =>
    cases hclosed : t.channel.closed with
    | false => exact .inl ⟨rfl, rfl⟩
    | true => exact .inr (.inl ⟨rfl, rfl, rfl⟩)

lemma wakeful_offer (h : Wakeful t) (x : α) (hoff : t.sender = .offering x) :
    Wakeful (t.offer x) := by
  have hstays : t.sender ≠ .leaving := by
    rw [hoff]
    nofun
  obtain ⟨hwaits, heq⟩ | ⟨hcan, heq⟩ | ⟨hcan, heq⟩ := offer_cases t x
  · rw [heq]
    exact ⟨fun _ => .inl hwaits, fun hr => .inl ((h.receiver hr).resolve_right hstays),
      h.cancelled, nofun⟩
  · rw [heq]
    exact ⟨nofun, fun hr => .inl ((h.receiver hr).resolve_right hstays), h.cancelled, nofun⟩
  · rw [heq]
    refine ⟨fun _ => .inl ?_, fun hr => absurd hr (wakeReceiver_ne_asleep _),
      fun hr => h.cancelled (cancelling_wakeReceiver_iff.mp hr), nofun⟩
    simp [Channel.senderWaits, hcan]

lemma wakeful_settle (h : Wakeful t) (hset : t.sender = .settling) : Wakeful t.settle := by
  have hstays : t.sender ≠ .leaving := by
    rw [hset]
    nofun
  obtain ⟨hwaits, heq⟩ | ⟨-, result, heq⟩ := settle_cases t
  · rw [heq]
    exact ⟨fun _ => .inl hwaits, fun hr => .inl ((h.receiver hr).resolve_right hstays),
      h.cancelled, nofun⟩
  · rw [heq]
    refine ⟨nofun, fun hr => .inl ?_, h.cancelled, nofun⟩
    -- a sleeping receiver has found the slot empty already
    have hwaits := (h.receiver hr).resolve_right hstays
    simp only [Channel.receiverWaits, Bool.and_eq_true] at hwaits ⊢
    exact ⟨rfl, hwaits.2⟩

lemma wakeful_receive (h : Wakeful t) (hrec : t.receiver = .receiving) : Wakeful t.receive := by
  have hstays : ¬ WakesSender t.receiver := by
    rw [hrec]
    exact nofun
  obtain ⟨hwaits, heq⟩ | ⟨-, -, heq⟩ | ⟨x, -, heq⟩ := receive_cases t
  · rw [heq]
    exact ⟨fun hs => .inl ((h.sender hs).resolve_right hstays), fun _ => .inl hwaits,
      nofun, h.closed⟩
  · rw [heq]
    exact ⟨fun hs => .inl ((h.sender hs).resolve_right hstays), nofun, nofun, h.closed⟩
  · rw [heq]
    exact ⟨fun hs => absurd hs (not_senderAsleep_wakeSender _), nofun, nofun,
      fun hs => h.closed (closing_wakeSender_iff.mp hs)⟩

lemma wakeful_step (h : Wakeful t) (hstep : Step t u) : Wakeful u := by
  cases hstep with
  | beginSend x hidle =>
    refine ⟨nofun, fun hr => .inl ((h.receiver hr).resolve_right ?_), h.cancelled, nofun⟩
    rw [hidle]
    nofun
  | offer x hoff => exact wakeful_offer h x hoff
  | settle hset => exact wakeful_settle h hset
  | close hidle => exact ⟨nofun, fun _ => .inr rfl, h.cancelled, fun _ => rfl⟩
  | leave hleaving =>
    exact ⟨nofun, fun hr => absurd hr (wakeReceiver_ne_asleep _),
      fun hr => h.cancelled (cancelling_wakeReceiver_iff.mp hr), fun _ => h.closed (.inl hleaving)⟩
  | beginReceive hidle =>
    refine ⟨fun hs => .inl ((h.sender hs).resolve_right ?_), nofun, nofun, h.closed⟩
    rw [hidle]
    exact nofun
  | receive hrec => exact wakeful_receive h hrec
  | cancel thenGo hidle =>
    exact ⟨fun _ => .inr ⟨thenGo, rfl⟩, nofun, fun _ => rfl, h.closed⟩
  | cancelled thenGo hcan =>
    refine ⟨fun hs => absurd hs (not_senderAsleep_wakeSender _), fun hr => ?_,
      fun _ => h.cancelled (.inl ⟨thenGo, hcan⟩),
      fun hs => h.closed (closing_wakeSender_iff.mp hs)⟩
    cases thenGo <;> cases hr
  | wakeSender =>
    refine ⟨fun hs => absurd hs (not_senderAsleep_wakeSender _), fun hr => ?_, h.cancelled,
      fun hs => h.closed (closing_wakeSender_iff.mp hs)⟩
    rw [wakeSender_eq_leaving_iff]
    exact h.receiver hr
  | wakeReceiver =>
    refine ⟨fun hs => ?_, fun hr => absurd hr (wakeReceiver_ne_asleep _),
      fun hr => h.cancelled (cancelling_wakeReceiver_iff.mp hr), h.closed⟩
    rw [wakesSender_wakeReceiver_iff]
    exact h.sender hs

lemma wakeful_of_reachable (h : Reachable t) : Wakeful t := by
  induction h with
  | start => exact ⟨nofun, nofun, nofun, nofun⟩
  | step _ hstep ih => exact wakeful_step ih hstep

lemma senderAwake_step (hcan : t.channel.cancelled = true) (hs : ¬ SenderAsleep t.sender)
    (hstep : Step t u) : u.channel.cancelled = true ∧ ¬ SenderAsleep u.sender := by
  have hfree : ¬ t.channel.senderWaits = true := by
    simp [Channel.senderWaits, hcan]
  cases hstep with
  | beginSend x _ => exact ⟨hcan, id⟩
  | offer x _ =>
    obtain ⟨hwaits, -⟩ | ⟨-, heq⟩ | ⟨hopen, -⟩ := offer_cases t x
    · exact absurd hwaits hfree
    · rw [heq]
      exact ⟨hcan, id⟩
    · cases hcan.symm.trans hopen
  | settle _ =>
    obtain ⟨hwaits, -⟩ | ⟨-, result, heq⟩ := settle_cases t
    · exact absurd hwaits hfree
    · rw [heq]
      exact ⟨hcan, id⟩
  | close _ => exact ⟨hcan, id⟩
  | leave _ => exact ⟨hcan, id⟩
  | receive _ =>
    obtain ⟨-, heq⟩ | ⟨-, -, heq⟩ | ⟨x, -, heq⟩ := receive_cases t
    · rw [heq]
      exact ⟨hcan, hs⟩
    · rw [heq]
      exact ⟨hcan, hs⟩
    · rw [heq]
      exact ⟨hcan, not_senderAsleep_wakeSender _⟩
  | cancel thenGo _ => exact ⟨rfl, hs⟩
  | cancelled thenGo _ => exact ⟨hcan, not_senderAsleep_wakeSender _⟩
  | wakeSender => exact ⟨hcan, not_senderAsleep_wakeSender _⟩
  | _ => exact ⟨hcan, hs⟩

lemma senderAwake_run (hcan : t.channel.cancelled = true) (hs : ¬ SenderAsleep t.sender)
    (hrun : Relation.ReflTransGen Step t u) :
    u.channel.cancelled = true ∧ ¬ SenderAsleep u.sender := by
  induction hrun with
  | refl => exact ⟨hcan, hs⟩
  | tail _ hstep ih => exact senderAwake_step ih.1 ih.2 hstep

lemma receiverAwake_step (hclosed : t.channel.closed = true) (hr : t.receiver ≠ .asleep)
    (hstep : Step t u) : u.channel.closed = true ∧ u.receiver ≠ .asleep := by
  cases hstep with
  | offer x _ =>
    obtain ⟨-, heq⟩ | ⟨-, heq⟩ | ⟨-, heq⟩ := offer_cases t x
    · rw [heq]
      exact ⟨hclosed, hr⟩
    · rw [heq]
      exact ⟨hclosed, hr⟩
    · rw [heq]
      exact ⟨hclosed, wakeReceiver_ne_asleep _⟩
  | settle _ =>
    obtain ⟨-, heq⟩ | ⟨-, result, heq⟩ := settle_cases t
    · rw [heq]
      exact ⟨hclosed, hr⟩
    · rw [heq]
      exact ⟨hclosed, hr⟩
  | close _ => exact ⟨rfl, hr⟩
  | leave _ => exact ⟨hclosed, wakeReceiver_ne_asleep _⟩
  | receive _ =>
    obtain ⟨hwaits, -⟩ | ⟨-, -, heq⟩ | ⟨x, -, heq⟩ := receive_cases t
    · simp [Channel.receiverWaits, hclosed] at hwaits
    · rw [heq]
      exact ⟨hclosed, by simp⟩
    · rw [heq]
      exact ⟨hclosed, by simp⟩
  | beginReceive _ => exact ⟨hclosed, by simp⟩
  | cancel thenGo _ => exact ⟨hclosed, by simp⟩
  | cancelled thenGo _ =>
    refine ⟨hclosed, ?_⟩
    cases thenGo <;> simp
  | wakeReceiver => exact ⟨hclosed, wakeReceiver_ne_asleep _⟩
  | _ => exact ⟨hclosed, hr⟩

lemma receiverAwake_run (hclosed : t.channel.closed = true) (hr : t.receiver ≠ .asleep)
    (hrun : Relation.ReflTransGen Step t u) :
    u.channel.closed = true ∧ u.receiver ≠ .asleep := by
  induction hrun with
  | refl => exact ⟨hclosed, hr⟩
  | tail _ hstep ih => exact receiverAwake_step ih.1 ih.2 hstep

lemma Wakeful.sender_waits (h : Wakeful t) (hs : SenderAsleep t.sender)
    (htold : ¬ WakesSender t.receiver) :
    t.channel.slot.isSome = true ∧ t.channel.cancelled = false := by
  have hwaits := (h.sender hs).resolve_right htold
  simpa [Channel.senderWaits] using hwaits

lemma Wakeful.receiver_waits (h : Wakeful t) (hr : t.receiver = .asleep)
    (htold : t.sender ≠ .leaving) : t.channel.slot = none ∧ t.channel.closed = false := by
  have hwaits := (h.receiver hr).resolve_right htold
  simpa [Channel.receiverWaits] using hwaits

/-- One of them would find the slot full and the other one empty. -/
lemma Wakeful.not_both_asleep (h : Wakeful t) (hs : SenderAsleep t.sender) :
    t.receiver ≠ .asleep := by
  intro hr
  have hfull := h.sender_waits hs (by simp [hr, WakesSender])
  have hempty := h.receiver_waits hr (by intro hl; rw [hl] at hs; exact hs)
  rw [hempty.1] at hfull
  cases hfull.1

lemma Wakeful.sender_woken (h : Wakeful t) (hs : SenderAsleep t.sender) (hstep : Step t u) :
    ¬ SenderAsleep u.sender ∨ u.receiver = t.receiver ∨ t.receiver = .idle := by
  cases hstep with
  | offer x hoff =>
    rw [hoff] at hs
    exact hs.elim
  | settle hset =>
    rw [hset] at hs
    exact hs.elim
  | leave _ => exact .inl id
  | beginReceive hidle => exact .inr (.inr hidle)
  | receive hrec =>
    have hfull := (h.sender_waits hs (by simp [hrec, WakesSender])).1
    obtain ⟨hwaits, -⟩ | ⟨hslot, -⟩ | ⟨x, -, heq⟩ := receive_cases t
    · have hempty : t.channel.slot = none := by
        simp only [Channel.receiverWaits, Bool.and_eq_true, Option.isNone_iff_eq_none] at hwaits
        exact hwaits.1
      rw [hempty] at hfull
      cases hfull
    · rw [hslot] at hfull
      cases hfull
    · rw [heq]
      exact .inl (not_senderAsleep_wakeSender _)
  | cancel thenGo hidle => exact .inr (.inr hidle)
  | cancelled thenGo _ => exact .inl (not_senderAsleep_wakeSender _)
  | wakeSender => exact .inl (not_senderAsleep_wakeSender _)
  | wakeReceiver =>
    refine .inr (.inl ?_)
    exact wakeReceiver_of_awake (h.not_both_asleep hs)
  | _ => exact .inr (.inl rfl)

lemma Wakeful.receiver_woken (h : Wakeful t) (hr : t.receiver = .asleep) (hstep : Step t u) :
    u.receiver ≠ .asleep ∨ u.sender = t.sender ∨ t.sender = .idle ∨ u.sender = .idle := by
  cases hstep with
  | beginSend x hidle => exact .inr (.inr (.inl hidle))
  | offer x hoff =>
    have hempty := (h.receiver_waits hr (by simp [hoff])).1
    obtain ⟨hwaits, -⟩ | ⟨-, heq⟩ | ⟨-, heq⟩ := offer_cases t x
    · rw [Channel.senderWaits, hempty] at hwaits
      cases hwaits
    · rw [heq]
      exact .inr (.inr (.inr rfl))
    · rw [heq]
      exact .inl (wakeReceiver_ne_asleep _)
  | settle hset =>
    have hempty := (h.receiver_waits hr (by simp [hset])).1
    obtain ⟨hwaits, -⟩ | ⟨-, result, heq⟩ := settle_cases t
    · rw [Channel.senderWaits, hempty] at hwaits
      cases hwaits
    · rw [heq]
      exact .inr (.inr (.inr rfl))
  | close hidle => exact .inr (.inr (.inl hidle))
  | leave _ => exact .inl (wakeReceiver_ne_asleep _)
  | receive hrec => cases hr.symm.trans hrec
  | cancelled thenGo hcan => cases hr.symm.trans hcan
  | wakeSender =>
    refine .inr (.inl ?_)
    exact wakeSender_of_awake fun hs => h.not_both_asleep hs hr
  | wakeReceiver => exact .inl (wakeReceiver_ne_asleep _)
  | _ => exact .inr (.inl rfl)

/-- What the two threads on a channel can rely on when they wait. -/
structure NoLostWakeup (t : Threads α) : Prop where
  sender_asleep : SenderAsleep t.sender → ¬ WakesSender t.receiver →
    t.channel.slot.isSome = true ∧ t.channel.cancelled = false
  receiver_asleep : t.receiver = .asleep → t.sender ≠ .leaving →
    t.channel.slot = none ∧ t.channel.closed = false
  /-- Nobody sleeps beside a thread that sleeps or is gone. -/
  no_deadlock : ¬ (SenderAsleep t.sender ∧ (t.receiver = .asleep ∨ t.receiver = .gone)) ∧
    ¬ (t.receiver = .asleep ∧ (SenderAsleep t.sender ∨ t.sender = .gone))
  /-- The receiver does not get on with an operation before a sender that sleeps is awake. -/
  sender_woken : SenderAsleep t.sender → ∀ u, Step t u →
    ¬ SenderAsleep u.sender ∨ u.receiver = t.receiver ∨ t.receiver = .idle
  /-- The sender gets on with an operation beside a receiver that sleeps only to end a send. -/
  receiver_woken : t.receiver = .asleep → ∀ u, Step t u →
    u.receiver ≠ .asleep ∨ u.sender = t.sender ∨ t.sender = .idle ∨ u.sender = .idle
  /-- A receiver that has still to wake the sender, or is gone, has cancelled the channel. -/
  cancels : WakesSender t.receiver ∨ t.receiver = .gone → t.channel.cancelled = true
  /-- Once a cancellation is complete no sender sleeps any more. -/
  after_cancel : t.channel.cancelled = true → ¬ WakesSender t.receiver →
    ∀ u, Relation.ReflTransGen Step t u → ¬ SenderAsleep u.sender
  /-- Once the sender is gone no receiver sleeps any more. -/
  after_leave : t.sender = .gone →
    ∀ u, Relation.ReflTransGen Step t u → u.receiver ≠ .asleep

/-- In whatever order the threads take their steps, and whenever they wake up without being told
to, no wake-up is lost, and they do not wait for each other. -/
theorem handoff_no_lost_wakeup (h : Reachable t) : NoLostWakeup t := by
  have hw := wakeful_of_reachable h
  have hgone : t.receiver = .gone → ¬ SenderAsleep t.sender := by
    intro hr hs
    have hopen := (hw.sender_waits hs (by simp [hr, WakesSender])).2
    cases (hw.cancelled (.inr hr)).symm.trans hopen
  have hleft : t.sender = .gone → t.receiver ≠ .asleep := by
    intro hs hr
    have hopen := (hw.receiver_waits hr (by simp [hs])).2
    cases (hw.closed (.inr hs)).symm.trans hopen
  refine ⟨hw.sender_waits, hw.receiver_waits, ⟨?_, ?_⟩, fun hs u => hw.sender_woken hs,
    fun hr u => hw.receiver_woken hr, hw.cancelled, ?_, ?_⟩
  · rintro ⟨hs, hr | hr⟩
    · exact hw.not_both_asleep hs hr
    · exact hgone hr hs
  · rintro ⟨hr, hs | hs⟩
    · exact hw.not_both_asleep hs hr
    · exact hleft hs hr
  · intro hcan htold u hrun
    have hawake : ¬ SenderAsleep t.sender := by
      intro hs
      cases hcan.symm.trans (hw.sender_waits hs htold).2
    exact (senderAwake_run hcan hawake hrun).2
  · intro hs u hrun
    exact (receiverAwake_run (hw.closed (.inr hs)) (hleft hs) hrun).2

/-- The receiver goes while the sender sleeps on its item: until it has told the sender so it is
about to wake it. -/
theorem handoff_no_lost_wakeup_cancelled :
    ∃ t : Threads Nat, Reachable t ∧ t.sender = .asleepSettling ∧ t.channel.cancelled = true ∧
      WakesSender t.receiver ∧ NoLostWakeup t := by
  have hcancelling := ((Reachable.start.step (.beginSend _ 1 rfl)).step (.offer _ 1 rfl)).step
    (.cancel _ true rfl)
  exact ⟨_, hcancelling, rfl, rfl, ⟨true, rfl⟩, handoff_no_lost_wakeup hcancelling⟩

end SourceSplice.Proofs
