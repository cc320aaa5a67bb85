import Mathlib.Logic.Relation
import Mathlib.Tactic
import SourceSplice.Handoff.Threads
/-!
# What a channel delivers

Two threads on a channel, in any order of their steps: every item is received in the order of the
sends, and a send ends well exactly if its item was received. `Phase` is the invariant; it follows
the one send that has not ended from its start to the moment at which the sender learns what became
of the item.
-/

namespace SourceSplice.Proofs
open Handoff Handoff.Threads List

variable {α : Type} {t u : Threads α}

/-- No send is waiting for its item to be taken: `n` sends ended well and then `b` were
cancelled. -/
structure Settled (t : Threads α) (n b : Nat) : Prop where
  results : t.results = replicate n (.ok ()) ++ replicate b (.error .cancelled)
  received : t.received = t.sent.take n
  slot : t.channel.slot = none
  cancelled : 0 < b → t.channel.cancelled = true

/-- The item of the send after `n` others was put into the slot, and its end is not known to the
sender yet. -/
structure Offered (t : Threads α) (n : Nat) : Prop where
  sender : t.sender = .settling ∨ t.sender = .asleepSettling
  sent : t.sent.length = n + 1
  results : t.results = replicate n (.ok ())
  closed : t.channel.closed = false

/-- Where the exchange stands. -/
inductive Phase (t : Threads α) : Prop where
  | idle (n b : Nat) (h : Settled t n b) (hsent : t.sent.length = n + b) (hs : t.sender = .idle)
    (hc : t.channel.closed = false)
  | gone (n b : Nat) (h : Settled t n b) (hsent : t.sent.length = n + b)
    (hs : t.sender = .leaving ∨ t.sender = .gone) (hc : t.channel.closed = true)
  | offering (n b : Nat) (x : α) (h : Settled t n b) (hsent : t.sent.length = n + b + 1)
    (hx : t.sent[n + b]? = some x) (hs : t.sender = .offering x) (hc : t.channel.closed = false)
  | waiting (n : Nat) (x : α) (h : Offered t n) (hx : t.sent[n]? = some x)
    (hslot : t.channel.slot = some x) (hr : t.received = t.sent.take n)
  | taken (n : Nat) (h : Offered t n) (hslot : t.channel.slot = none) (hr : t.received = t.sent)

lemma Phase.congr (h : Phase t) (hsent : u.sent = t.sent) (hresults : u.results = t.results)
    (hreceived : u.received = t.received) (hslot : u.channel.slot = t.channel.slot)
    (hclosed : u.channel.closed = t.channel.closed)
    (hcancelled : t.channel.cancelled = true → u.channel.cancelled = true)
    (hsender : u.sender = t.sender ∨ u.sender = wakeSender t.sender) : Phase u := by
  have hsettled : ∀ {n b}, Settled t n b → Settled u n b := by
    intro n b hs
    refine ⟨hresults.trans hs.results, ?_, hslot.trans hs.slot,
      fun hb => hcancelled (hs.cancelled hb)⟩
    rw [hreceived, hsent, hs.received]
  have hoffered : ∀ {n}, Offered t n → Offered u n := by
    intro n ho
    refine ⟨?_, by rw [hsent, ho.sent], hresults.trans ho.results, hclosed.trans ho.closed⟩
    rcases hsender with hu | hu <;> rcases ho.sender with hs | hs <;> rw [hs] at hu
    · exact .inl hu
    · exact .inr hu
    · exact .inl hu
    · exact .inl hu
  cases h with
  | idle n b hs hl hpos hc =>
    refine .idle n b (hsettled hs) (by rw [hsent, hl]) ?_ (hclosed.trans hc)
    rcases hsender with hu | hu <;> rw [hu, hpos]
    rfl
  | gone n b hs hl hpos hc =>
    refine .gone n b (hsettled hs) (by rw [hsent, hl]) ?_ (hclosed.trans hc)
    rcases hsender with hu | hu <;> rcases hpos with hp | hp <;> rw [hu, hp]
    · exact .inl rfl
    · exact .inr rfl
    · exact .inl rfl
    · exact .inr rfl
  | offering n b x hs hl hx hpos hc =>
    refine .offering n b x (hsettled hs) (by rw [hsent, hl]) (by rw [hsent, hx]) ?_
      (hclosed.trans hc)
    rcases hsender with hu | hu <;> rw [hu, hpos]
    rfl
  | waiting n x ho hx hsl hr =>
    exact .waiting n x (hoffered ho) (by rw [hsent, hx]) (hslot.trans hsl)
      (by rw [hreceived, hsent, hr])
  | taken n ho hsl hr =>
    exact .taken n (hoffered ho) (hslot.trans hsl) (by rw [hreceived, hsent, hr])

lemma Phase.of_idle (h : Phase t) (hidle : t.sender = .idle) :
    ∃ n b, Settled t n b ∧ t.sent.length = n + b ∧ t.channel.closed = false := by
  cases h with
  | idle n b hs hl _ hc => exact ⟨n, b, hs, hl, hc⟩
  | gone n b hs hl hpos hc => rcases hpos with hp | hp <;> cases hidle.symm.trans hp
  | offering n b y hs hl hy hpos hc => cases hidle.symm.trans hpos
  | waiting n y ho _ _ _ => rcases ho.sender with hp | hp <;> cases hidle.symm.trans hp
  | taken n ho _ _ => rcases ho.sender with hp | hp <;> cases hidle.symm.trans hp

lemma Phase.of_offering (h : Phase t) {x : α} (hoff : t.sender = .offering x) :
    ∃ n b, Settled t n b ∧ t.sent.length = n + b + 1 ∧ t.sent[n + b]? = some x ∧
      t.channel.closed = false := by
  cases h with
  | idle n b hs hl hpos hc => cases hoff.symm.trans hpos
  | gone n b hs hl hpos hc => rcases hpos with hp | hp <;> cases hoff.symm.trans hp
  | offering n b y hs hl hy hpos hc =>
    obtain rfl : x = y := SenderAt.offering.inj (hoff.symm.trans hpos)
    exact ⟨n, b, hs, hl, hy, hc⟩
  | waiting n y ho _ _ _ => rcases ho.sender with hp | hp <;> cases hoff.symm.trans hp
  | taken n ho _ _ => rcases ho.sender with hp | hp <;> cases hoff.symm.trans hp

lemma phase_beginSend (h : Phase t) (hidle : t.sender = .idle) (x : α) :
    Phase { t with sender := .offering x, sent := t.sent ++ [x] } := by
  obtain ⟨n, b, hs, hl, hc⟩ := h.of_idle hidle
  refine .offering n b x ⟨hs.results, ?_, hs.slot, hs.cancelled⟩ ?_ ?_ rfl hc
  · change t.received = _
    rw [hs.received, take_append_of_le_length (by omega)]
  · simp only [length_append, length_singleton, hl]
  · rw [← hl, getElem?_concat_length]

lemma phase_offer (h : Phase t) (x : α) (hoff : t.sender = .offering x) : Phase (t.offer x) := by
  obtain ⟨n, b, hs, hl, hx, hc⟩ := h.of_offering hoff
  have hfree : t.channel.senderWaits = false := by simp only [Channel.senderWaits, hs.slot]; rfl
  cases hcan : t.channel.cancelled with
  | true =>
    have hoffer : t.offer x =
        { t with sender := .idle, results := t.results ++ [.error .cancelled] } := by
      simp only [offer, hfree, Channel.offer, hcan, Bool.false_eq_true, if_false, if_true]
    rw [hoffer]
    refine .idle n (b + 1) ⟨?_, hs.received, hs.slot, fun _ => hcan⟩ hl rfl hc
    change t.results ++ _ = _
    rw [hs.results, append_assoc, replicate_succ']
  | false =>
    -- a send that was cancelled before would have left the channel cancelled
    have hb : b = 0 := by
      by_contra hb
      rw [hs.cancelled (Nat.pos_of_ne_zero hb)] at hcan
      cases hcan
    subst hb
    have hoffer : t.offer x = { t with
        channel := { t.channel with slot := some x }, sender := .asleepSettling
        receiver := wakeReceiver t.receiver } := by
      simp only [offer, hfree, Channel.offer, hcan, Bool.false_eq_true, if_false]
    rw [hoffer]
    refine .waiting n x ⟨.inr rfl, hl, ?_, hc⟩ hx rfl hs.received
    change t.results = _
    rw [hs.results, replicate_zero, append_nil]

lemma phase_settle (h : Phase t) (hset : t.sender = .settling) : Phase t.settle := by
  cases h with
  | idle n b hs hl hpos hc => cases hset.symm.trans hpos
  | gone n b hs hl hpos hc => rcases hpos with hp | hp <;> cases hset.symm.trans hp
  | offering n b y hs hl hy hpos hc => cases hset.symm.trans hpos
  | waiting n x ho hx hsl hr =>
    cases hcan : t.channel.cancelled with
    | true =>
      have hsettle : t.settle = { t with
          channel := { t.channel with slot := none }, sender := .idle
          results := t.results ++ [.error .cancelled] } := by
        simp [settle, Channel.senderWaits, Channel.settle, hsl, hcan]
      rw [hsettle]
      refine .idle n 1 ⟨?_, hr, rfl, fun _ => hcan⟩ ho.sent rfl ho.closed
      change t.results ++ _ = _
      rw [ho.results]
      rfl
    | false =>
      have hsettle : t.settle = { t with sender := .asleepSettling } := by
        simp [settle, Channel.senderWaits, hsl, hcan]
      rw [hsettle]
      exact .waiting n x ⟨.inr rfl, ho.sent, ho.results, ho.closed⟩ hx hsl hr
  | taken n ho hsl hr =>
    have hsettle : t.settle = { t with sender := .idle, results := t.results ++ [.ok ()] } := by
      simp [settle, Channel.senderWaits, Channel.settle, hsl]
    rw [hsettle]
    refine .idle (n + 1) 0 ⟨?_, ?_, hsl, fun hb => absurd hb (lt_irrefl 0)⟩ ho.sent rfl ho.closed
    · change t.results ++ _ = _
      rw [ho.results, replicate_zero, append_nil, replicate_succ']
    · change t.received = t.sent.take (n + 1)
      rw [hr, take_of_length_le (by rw [ho.sent])]

lemma phase_receive (h : Phase t) : Phase t.receive := by
  have hkeep : t.channel.slot = none → Phase t.receive := by
    intro hsl
    cases hc : t.channel.closed with
    | false =>
      have hreceive : t.receive = { t with receiver := .asleep } := by
        simp [receive, Channel.receiverWaits, hsl, hc]
      rw [hreceive]
      exact h.congr rfl rfl rfl rfl rfl id (.inl rfl)
    | true =>
      have hreceive : t.receive =
          { t with receiver := .idle, receipts := t.receipts ++ [.error .closed] } := by
        simp [receive, Channel.receiverWaits, Channel.take, hsl, hc]
      rw [hreceive]
      refine h.congr rfl rfl ?_ rfl rfl id (.inl rfl)
      simp [Threads.received, Except.toOption]
  cases h with
  | idle n b hs hl hpos hc => exact hkeep hs.slot
  | gone n b hs hl hpos hc => exact hkeep hs.slot
  | offering n b y hs hl hy hpos hc => exact hkeep hs.slot
  | taken n ho hsl hr => exact hkeep hsl
  | waiting n x ho hx hsl hr =>
    have hreceive : t.receive = { t with
        channel := { t.channel with slot := none }, receiver := .idle
        sender := wakeSender t.sender, receipts := t.receipts ++ [.ok x] } := by
      simp [receive, Channel.receiverWaits, Channel.take, hsl]
    rw [hreceive]
    refine .taken n ⟨?_, ho.sent, ho.results, ho.closed⟩ rfl ?_
    · rcases ho.sender with hp | hp
      · exact .inl (congrArg wakeSender hp)
      · exact .inl (congrArg wakeSender hp)
    · obtain ⟨hn, hget⟩ := List.getElem?_eq_some_iff.mp hx
      have hlast : t.sent = t.sent.take n ++ [x] :=
        calc t.sent = t.sent.take (n + 1) := (take_of_length_le (by rw [ho.sent])).symm
          _ = t.sent.take n ++ [x] := by rw [← take_concat_get' t.sent n hn, hget]
      simp only [Threads.received, filterMap_append] at hr ⊢
      rw [hr]
      exact hlast.symm

lemma phase_step (h : Phase t) (hstep : Step t u) : Phase u := by
  cases hstep with
  | beginSend x hidle => exact phase_beginSend h hidle x
  | offer x hoff => exact phase_offer h x hoff
  | settle hset => exact phase_settle h hset
  | close hidle =>
    obtain ⟨n, b, hs, hl, hc⟩ := h.of_idle hidle
    exact .gone n b ⟨hs.1, hs.2, hs.3, hs.4⟩ hl (.inl rfl) rfl
  | leave hleaving =>
    cases h with
    | idle n b hs hl hpos hc => cases hleaving.symm.trans hpos
    | gone n b hs hl hpos hc => exact .gone n b ⟨hs.1, hs.2, hs.3, hs.4⟩ hl (.inr rfl) hc
    | offering n b y hs hl hy hpos hc => cases hleaving.symm.trans hpos
    | waiting n y ho _ _ _ => rcases ho.sender with hp | hp <;> cases hleaving.symm.trans hp
    | taken n ho _ _ => rcases ho.sender with hp | hp <;> cases hleaving.symm.trans hp
  | beginReceive _ => exact h.congr rfl rfl rfl rfl rfl id (.inl rfl)
  | receive _ => exact phase_receive h
  | cancel thenGo _ => exact h.congr rfl rfl rfl rfl rfl (fun _ => rfl) (.inl rfl)
  | cancelled thenGo _ => exact h.congr rfl rfl rfl rfl rfl id (.inr rfl)
  | wakeSender => exact h.congr rfl rfl rfl rfl rfl id (.inr rfl)
  | wakeReceiver => exact h.congr rfl rfl rfl rfl rfl id (.inl rfl)

lemma phase_of_reachable (h : Reachable t) : Phase t := by
  induction h with
  | start => exact .idle 0 0 ⟨rfl, rfl, rfl, fun hb => absurd hb (lt_irrefl 0)⟩ rfl rfl rfl
  | step _ hstep ih => exact phase_step ih hstep

/-- The history of an exchange and its end only grow from `t` to `u`. -/
structure Grows (t u : Threads α) : Prop where
  sent : t.sent <+: u.sent
  results : t.results <+: u.results
  received : t.received <+: u.received
  closed : t.channel.closed = true → u.channel.closed = true
  receipts : ∀ e, .error e ∈ u.receipts →
    .error e ∈ t.receipts ∨ e = .closed ∧ u.channel.closed = true

lemma grows_of_eq (hsent : t.sent <+: u.sent) (hresults : t.results <+: u.results)
    (hreceipts : u.receipts = t.receipts)
    (hclosed : t.channel.closed = true → u.channel.closed = true) : Grows t u := by
  refine ⟨hsent, hresults, ?_, hclosed, fun e he => .inl (hreceipts ▸ he)⟩
  simp only [Threads.received, hreceipts, prefix_rfl]

lemma grows_offer (t : Threads α) (x : α) : Grows t (t.offer x) := by
  unfold offer
  split
  · exact grows_of_eq prefix_rfl prefix_rfl rfl id
  · unfold Channel.offer
    cases t.channel.cancelled with
    | true => exact grows_of_eq prefix_rfl (prefix_append _ _) rfl id
    | false => exact grows_of_eq prefix_rfl prefix_rfl rfl id

lemma grows_settle (t : Threads α) : Grows t t.settle := by
  unfold settle
  split
  · exact grows_of_eq prefix_rfl prefix_rfl rfl id
  · unfold Channel.settle
    cases t.channel.slot with
    | some x => exact grows_of_eq prefix_rfl (prefix_append _ _) rfl id
    | none => exact grows_of_eq prefix_rfl (prefix_append _ _) rfl id

lemma grows_receive (t : Threads α) : Grows t t.receive := by
  unfold receive
  split
  · exact grows_of_eq prefix_rfl prefix_rfl rfl id
  · rename_i hwaits
    unfold Channel.take
    cases hsl : t.channel.slot with
    | some x =>
      refine ⟨prefix_rfl, prefix_rfl, ?_, id, ?_⟩
      · simp only [Threads.received, filterMap_append, prefix_append]
      · intro e he
        exact .inl (by simpa using he)
    | none =>
      have hc : t.channel.closed = true := by simpa [Channel.receiverWaits, hsl] using hwaits
      refine ⟨prefix_rfl, prefix_rfl, ?_, id, ?_⟩
      · simp only [Threads.received, filterMap_append, prefix_append]
      · intro e he
        rcases mem_append.mp he with he | he
        · exact .inl he
        · simp only [mem_singleton, Except.error.injEq] at he
          exact .inr ⟨he, hc⟩

lemma grows_step (hstep : Step t u) : Grows t u := by
  cases hstep with
  | beginSend x _ => exact grows_of_eq (prefix_append _ _) prefix_rfl rfl id
  | offer x _ => exact grows_offer t x
  | settle _ => exact grows_settle t
  | close _ => exact grows_of_eq prefix_rfl prefix_rfl rfl fun _ => rfl
  | receive _ => exact grows_receive t
  | _ => exact grows_of_eq prefix_rfl prefix_rfl rfl id

lemma grows_run (h : Relation.ReflTransGen Step t u) : Grows t u := by
  induction h with
  | refl => exact grows_of_eq prefix_rfl prefix_rfl rfl id
  | tail _ hstep ih =>
    have hlast := grows_step hstep
    refine ⟨ih.sent.trans hlast.sent, ih.results.trans hlast.results,
      ih.received.trans hlast.received, fun hc => hlast.closed (ih.closed hc), ?_⟩
    intro e he
    rcases hlast.receipts e he with he | he
    · rcases ih.receipts e he with he | ⟨rfl, hc⟩
      · exact .inl he
      · exact .inr ⟨rfl, hlast.closed hc⟩
    · exact .inr he

lemma run_of_reachable (h : Reachable t) : Relation.ReflTransGen Step ({} : Threads α) t := by
  induction h with
  | start => exact .refl
  | step _ hstep ih => exact ih.tail hstep

lemma reachable_of_run (h : Reachable t) (hrun : Relation.ReflTransGen Step t u) :
    Reachable u := by
  induction hrun with
  | refl => exact h
  | tail _ hstep ih => exact ih.step hstep

lemma Phase.counts (h : Phase t) :
    ∃ n b, t.results = replicate n (.ok ()) ++ replicate b (.error .cancelled) ∧
      t.results.length ≤ t.sent.length ∧ t.received <+: t.sent ∧
      (t.received.length = n ∨ b = 0 ∧ t.received.length = n + 1) := by
  have hsettled : ∀ {n b}, Settled t n b → n + b ≤ t.sent.length →
      ∃ n b, t.results = replicate n (.ok ()) ++ replicate b (.error .cancelled) ∧
        t.results.length ≤ t.sent.length ∧ t.received <+: t.sent ∧
        (t.received.length = n ∨ b = 0 ∧ t.received.length = n + 1) := by
    intro n b hs hl
    refine ⟨n, b, hs.results, ?_, ?_, .inl ?_⟩
    · simp only [hs.results, length_append, length_replicate, hl]
    · rw [hs.received]
      exact take_prefix _ _
    · rw [hs.received, length_take]
      omega
  cases h with
  | idle n b hs hl _ _ => exact hsettled hs hl.ge
  | gone n b hs hl _ _ => exact hsettled hs hl.ge
  | offering n b x hs hl _ _ _ => exact hsettled hs (by omega)
  | waiting n x ho _ _ hr =>
    refine ⟨n, 0, by rw [ho.results, replicate_zero, append_nil], ?_, ?_, .inl ?_⟩
    · rw [ho.results, ho.sent, length_replicate]
      omega
    · rw [hr]
      exact take_prefix _ _
    · rw [hr, length_take, ho.sent]
      omega
  | taken n ho _ hr =>
    refine ⟨n, 0, by rw [ho.results, replicate_zero, append_nil], ?_, ?_, .inr ⟨rfl, ?_⟩⟩
    · rw [ho.results, ho.sent, length_replicate]
      omega
    · rw [hr]
    · rw [hr, ho.sent]

lemma Phase.result_ok_iff (h : Phase t) {i : Nat} {r : Except HandoffError Unit}
    (hi : t.results[i]? = some r) : (r = .ok () ↔ i < t.received.length) ∧
      ∀ e, r = .error e → e = .cancelled := by
  obtain ⟨n, b, hresults, -, -, hlen⟩ := h.counts
  rw [hresults] at hi
  by_cases hin : i < n
  · rw [getElem?_append_left (by rwa [length_replicate]), getElem?_replicate, if_pos hin] at hi
    cases hi
    refine ⟨?_, nofun⟩
    simp only [true_iff]
    omega
  · rw [getElem?_append_right (by rw [length_replicate]; omega), length_replicate,
      getElem?_replicate] at hi
    split at hi
    · cases hi
      refine ⟨⟨nofun, fun hlt => ?_⟩, fun e he => ?_⟩
      · omega
      · cases he
        rfl
    · cases hi

/-- What a channel promises of an exchange so far. -/
structure ExactlyOnce (t : Threads α) : Prop where
  /-- The items were received in the order of the sends. -/
  received_in_order : t.received <+: t.sent
  /-- A send ended well exactly if the receive at its place returned its item. -/
  ok_iff_received : ∀ (i : Nat) (x : α) (r : Except HandoffError Unit),
    t.sent[i]? = some x → t.results[i]? = some r →
      (r = .ok () ↔ t.received[i]? = some x)
  /-- If no item is sent twice, that was the only receive that returned it. -/
  ok_iff_unique : t.sent.Nodup → ∀ (i : Nat) (x : α) (r : Except HandoffError Unit),
    t.sent[i]? = some x → t.results[i]? = some r →
      (r = .ok () ↔ ∃! k : Nat, t.received[k]? = some x)
  /-- Every other send was cancelled, and its item neither waits in the slot nor was received. -/
  error_cancelled : ∀ i e, t.results[i]? = some (.error e) →
    e = .cancelled ∧ t.received.length ≤ i
  slot_open : ∀ x, t.channel.slot = some x → t.sent[t.results.length]? = some x
  /-- At the start of a send the slot is empty. -/
  slot_empty : t.sender = .idle ∨ (∃ x, t.sender = .offering x) → t.channel.slot = none
  /-- A receive returns no item only once the sender is gone and has left none. -/
  closed_gone : ∀ e, .error e ∈ t.receipts →
    e = .closed ∧ (t.sender = .leaving ∨ t.sender = .gone) ∧ t.channel.slot = none

lemma Phase.slot_open (h : Phase t) {x : α} (hx : t.channel.slot = some x) :
    t.sent[t.results.length]? = some x := by
  cases h with
  | idle n b hs => cases hs.slot.symm.trans hx
  | gone n b hs => cases hs.slot.symm.trans hx
  | offering n b y hs => cases hs.slot.symm.trans hx
  | taken n ho hsl => cases hsl.symm.trans hx
  | waiting n y ho hy hsl =>
    obtain rfl : y = x := Option.some.inj (hsl.symm.trans hx)
    rw [ho.results, length_replicate, hy]

lemma Phase.of_closed (h : Phase t) (hc : t.channel.closed = true) :
    (t.sender = .leaving ∨ t.sender = .gone) ∧ t.channel.slot = none := by
  cases h with
  | gone n b hs hl hpos => exact ⟨hpos, hs.slot⟩
  | idle n b hs hl hpos hc' => cases hc'.symm.trans hc
  | offering n b y hs hl hy hpos hc' => cases hc'.symm.trans hc
  | waiting n y ho => cases ho.closed.symm.trans hc
  | taken n ho => cases ho.closed.symm.trans hc

lemma getElem?_of_initial {β : Type} {xs ys : List β} (hp : xs <+: ys) {i : Nat} {x : β}
    (hi : xs[i]? = some x) : ys[i]? = some x := by
  obtain ⟨hlt, rfl⟩ := List.getElem?_eq_some_iff.mp hi
  exact prefix_iff_getElem?.mp hp i hlt

lemma getElem?_initial_iff {xs ys : List α} (hp : xs <+: ys) {i : Nat} {x : α}
    (hi : ys[i]? = some x) : xs[i]? = some x ↔ i < xs.length := by
  obtain ⟨zs, rfl⟩ := hp
  constructor
  · intro h
    exact (List.getElem?_eq_some_iff.mp h).1
  · intro h
    rwa [getElem?_append_left h] at hi

lemma existsUnique_getElem?_initial {xs ys : List α} (hp : xs <+: ys) (hn : ys.Nodup)
    {i : Nat} {x : α} (hi : ys[i]? = some x) : (∃! k : Nat, xs[k]? = some x) ↔ i < xs.length := by
  have hplace : ∀ k : Nat, xs[k]? = some x → k = i := by
    intro k hk
    have hk' := getElem?_of_initial hp hk
    exact (getElem?_inj (List.getElem?_eq_some_iff.mp hk').1 hn).mp (hk'.trans hi.symm)
  constructor
  · rintro ⟨k, hk, -⟩
    have := (List.getElem?_eq_some_iff.mp hk).1
    rwa [hplace k hk] at this
  · intro h
    exact ⟨i, (getElem?_initial_iff hp hi).mpr h, hplace⟩

/-- In whatever order the threads take their steps, a channel delivers every item at most once and
in the order of the sends, and a send ends well exactly if its item was received. The item of a
cancelled send is never received, whatever is done later. -/
theorem handoff_exactly_once (h : Reachable t) :
    ExactlyOnce t ∧
      ∀ u, Relation.ReflTransGen Step t u → ∀ (i : Nat) (x : α) (e : HandoffError),
        t.sent[i]? = some x → t.results[i]? = some (.error e) →
          u.results[i]? = some (.error e) ∧ u.received.length ≤ i ∧
            (u.sent.Nodup → x ∉ u.received ∧ u.channel.slot ≠ some x) := by
  have hcancelled : ∀ {v : Threads α}, Phase v → ∀ (i : Nat) (e : HandoffError),
      v.results[i]? = some (.error e) → e = .cancelled ∧ v.received.length ≤ i := by
    intro v hv i e hi
    obtain ⟨hok, herr⟩ := hv.result_ok_iff hi
    exact ⟨herr e rfl, not_lt.mp fun hlt => nomatch hok.mpr hlt⟩
  have hphase := phase_of_reachable h
  obtain ⟨-, -, -, -, hinit, -⟩ := hphase.counts
  refine ⟨⟨hinit, ?_, ?_, hcancelled hphase, fun x => hphase.slot_open, ?_, ?_⟩, ?_⟩
  · intro i x r hx hr
    rw [(hphase.result_ok_iff hr).1, getElem?_initial_iff hinit hx]
  · intro hn i x r hx hr
    rw [(hphase.result_ok_iff hr).1, existsUnique_getElem?_initial hinit hn hx]
  · rintro (hidle | ⟨x, hoff⟩)
    · obtain ⟨n, b, hs, -⟩ := hphase.of_idle hidle
      exact hs.slot
    · obtain ⟨n, b, hs, -⟩ := hphase.of_offering hoff
      exact hs.slot
  · intro e he
    rcases (grows_run (run_of_reachable h)).receipts e he with he | ⟨he, hc⟩
    · cases he
    · exact ⟨he, hphase.of_closed hc⟩
  · intro u hrun i x e hx hi
    have hgrows := grows_run hrun
    have hphase' := phase_of_reachable (reachable_of_run h hrun)
    have hi' : u.results[i]? = some (.error e) := getElem?_of_initial hgrows.results hi
    have hx' : u.sent[i]? = some x := getElem?_of_initial hgrows.sent hx
    have hlen := (hcancelled hphase' i e hi').2
    -- no other send has this item, so it is neither among the received ones nor the one in the slot
    have hplace : ∀ k : Nat, u.sent[k]? = some x → u.sent.Nodup → k = i := by
      intro k hk hn
      exact (getElem?_inj (List.getElem?_eq_some_iff.mp hk).1 hn).mp (hk.trans hx'.symm)
    obtain ⟨-, -, -, -, hinit', -⟩ := hphase'.counts
    refine ⟨hi', hlen, fun hn => ⟨?_, ?_⟩⟩
    · intro hmem
      obtain ⟨k, hk⟩ := List.mem_iff_getElem?.mp hmem
      have hlt := (List.getElem?_eq_some_iff.mp hk).1
      have := hplace k (getElem?_of_initial hinit' hk) hn
      omega
    · intro hslot
      have hlt := (List.getElem?_eq_some_iff.mp hi').1
      have := hplace _ (hphase'.slot_open hslot) hn
      omega

/-- The first item is taken, and the receiver gives up before it takes the second one. -/
theorem handoff_exactly_once_second_cancelled :
    ∃ t : Threads Nat, Reachable t ∧ t.sent = [1, 2] ∧
      t.results = [.ok (), .error .cancelled] ∧ t.received = [1] ∧ t.channel.slot = none ∧
      ExactlyOnce t := by
  have htaken := ((((Reachable.start.step (.beginSend _ 1 rfl)).step (.offer _ 1 rfl)).step
    (.beginReceive _ rfl)).step (.receive _ rfl)).step (.settle _ rfl)
  have hcancelled := ((((htaken.step (.beginSend _ 2 rfl)).step (.offer _ 2 rfl)).step
    (.cancel _ false rfl)).step (.cancelled _ false rfl)).step (.settle _ rfl)
  exact ⟨_, hcancelled, rfl, rfl, rfl, rfl, (handoff_exactly_once hcancelled).1⟩

end SourceSplice.Proofs
