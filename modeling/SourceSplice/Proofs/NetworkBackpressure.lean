import SourceSplice.Generator.Lookahead
import SourceSplice.Proofs.NetworkStarvation
/-!
# How far a network works ahead of its consumer

A thread gets no further item before the one that it has is taken from it or it leaves its loop, and
it leaves only once. So every thread is at most one item ahead of its reader, and a source at most one
item for each thread ahead of the consumer. A stage that drops items has no part in this: it gets as
many as it likes for none that it passes on.
-/

namespace SourceSplice.Proofs
open Generator Generator.Network

variable {α ω : Type}

section Thread

/-- The number of items that a thread in its loop has got and that were not taken from it. -/
def inHand (t : Thread α ω) : Nat :=
  match t.position with
  | .holding _ | .offering _ => 1
  | .settling => t.out.slot.isSome.toNat
  | _ => 0

/-- Whether a thread can still come to getting an item. -/
def inLoop : ThreadAt α → Bool
  | .checking | .pulling | .holding _ | .offering _ | .settling => true
  | _ => false

/-- A thread that took so many items from the one before it, and from which so many were taken, has
kept one at most. -/
structure KeepsOne (t : Thread α ω) (before handed : Nat) : Prop where
  le : handed ≤ before + drawnBy t.worker
  le_succ : before + drawnBy t.worker ≤ handed + 1
  inLoop : inLoop t.position = true → before + drawnBy t.worker = handed + inHand t

variable {t t' : Thread α ω} {before handed : Nat}

lemma KeepsOne.of_inLoop (h : before + drawnBy t.worker = handed + inHand t) :
    KeepsOne t before handed := by
  have hone : inHand t ≤ 1 := by
    unfold inHand
    cases t.position with
    | settling => exact Bool.toNat_le _
    | _ => simp
  exact ⟨by omega, by omega, fun _ => h⟩

lemma KeepsOne.leave (h : KeepsOne t before handed) (hdrawn : drawnBy t'.worker = drawnBy t.worker)
    (hout : Proofs.inLoop t'.position = false) : KeepsOne t' before handed := by
  refine ⟨hdrawn ▸ h.le, hdrawn ▸ h.le_succ, ?_⟩
  intro hin
  cases hout.symm.trans hin

lemma KeepsOne.goOn (h : KeepsOne t before handed) (hin : Proofs.inLoop t.position = true)
    (hhand : drawnBy t'.worker + inHand t = drawnBy t.worker + inHand t') :
    KeepsOne t' before handed := by
  have haccount := h.inLoop hin
  apply KeepsOne.of_inLoop
  omega

lemma KeepsOne.taken (h : KeepsOne t before handed) (hpos : t.position = .settling) {x : α}
    (hslot : t.out.slot = some x) :
    KeepsOne { t with out := { t.out with slot := none } } before (handed + 1) := by
  have haccount := h.inLoop (by rw [hpos]; rfl)
  apply KeepsOne.of_inLoop
  simp only [inHand, hpos, hslot, Option.isSome_some, Bool.toNat_true] at haccount
  simp only [inHand, hpos, Option.isSome_none, Bool.toNat_false]
  omega

lemma KeepsOne.takes (h : KeepsOne t before handed) (hpos : t.position = .pulling) (x : α) :
    KeepsOne { t with position := .holding x } (before + 1) handed := by
  have haccount := h.inLoop (by rw [hpos]; rfl)
  apply KeepsOne.of_inLoop
  simp only [inHand, hpos] at haccount
  simp only [inHand]
  omega

variable [Writer ω]

lemma Alone.keepsOne (h : Alone t t') (hkeeps : ∀ s x, t.worker = .stage s → passed s x ≠ .dropped)
    (hk : KeepsOne t before handed) : KeepsOne t' before handed := by
  cases h with
  | goOn hpos => exact hk.goOn (by rw [hpos]; rfl) (by simp [inHand, hpos])
  | turnBack => exact hk.leave rfl rfl
  | drawn s k x hpos hw =>
    exact hk.goOn (by rw [hpos]; rfl) (by simp [inHand, hpos, hw, drawnBy])
  | dry => exact hk.leave rfl rfl
  | handedOn s s' x y hpos hw =>
    exact hk.goOn (by rw [hpos]; rfl) (by simp [inHand, hpos, hw, drawnBy])
  | dropped s s' x hpos hw hpush =>
    -- the thread would go on in its loop, with the item neither in hand nor taken from it
    exact absurd (passed_of_push hpush).1 (hkeeps s x hw)
  | broke s s' x text hpos hw => exact hk.leave (by rw [hw]; rfl) rfl
  | put x hpos => exact hk.goOn (by rw [hpos]; rfl) (by simp [inHand, hpos])
  | refused => exact hk.leave rfl rfl
  | delivered hpos hslot => exact hk.goOn (by rw [hpos]; rfl) (by simp [inHand, hpos, hslot])
  | retracted => exact hk.leave rfl rfl
  | closedSource => exact hk.leave rfl rfl
  | closedStage s s' broke hpos hw => exact hk.leave (by rw [hw]; rfl) rfl

end Thread

section HandedOver

variable {t t' : Thread α ω} {ts us : List (Thread α ω)}

lemma handedOver_of_slot (h : t'.out.slot = t.out.slot) : t.handedOver t' = false := by
  unfold Thread.handedOver
  rw [h]
  cases t.out.slot <;> rfl

lemma countHandedOver_self (ts : List (Thread α ω)) (ks : List Nat) :
    countHandedOver ts ts ks = ks := by
  induction ts generalizing ks with
  | nil => rfl
  | cons t ts ih =>
    cases ks with
    | nil => rfl
    | cons k ks => rw [countHandedOver, handedOver_of_slot rfl, ih, Bool.toNat_false, Nat.add_zero]

lemma countHandedOver_cons (h : t.handedOver t' = false) (k : Nat) (ks : List Nat) :
    countHandedOver (t :: ts) (t' :: us) (k :: ks) = k :: countHandedOver ts us ks := by
  rw [countHandedOver, h, Bool.toNat_false, Nat.add_zero]

lemma countHandedOver_self_cons (t : Thread α ω) (k : Nat) (ks : List Nat) :
    countHandedOver (t :: ts) (t :: us) (k :: ks) = k :: countHandedOver ts us ks :=
  countHandedOver_cons (handedOver_of_slot rfl) k ks

lemma countHandedOver_goTo (t : Thread α ω) (p : ThreadAt α) (k : Nat) (ks : List Nat) :
    countHandedOver (t :: ts) ({ t with position := p } :: us) (k :: ks) =
      k :: countHandedOver ts us ks :=
  countHandedOver_cons (handedOver_of_slot (by rfl)) k ks

lemma countHandedOver_cancel (t : Thread α ω) (ts : List (Thread α ω)) (ks : List Nat) :
    countHandedOver (t :: ts) ({ t with out := t.out.cancel } :: ts) ks = ks := by
  cases ks with
  | nil => rfl
  | cons k ks => rw [countHandedOver_cons (handedOver_of_slot (by rfl)), countHandedOver_self]

variable [Writer ω]

lemma Alone.handedOver (h : Alone t t') : t.handedOver t' = false := by
  cases h with
  | put =>
    unfold Thread.handedOver
    rw [Option.isNone_some, Bool.and_false, Bool.false_and]
  | retracted => exact Bool.and_false _
  | _ => exact handedOver_of_slot rfl

lemma Moves.handedOver (h : Moves (t :: ts) (t' :: us)) : t.handedOver t' = false := by
  cases h with
  | alone _ h => exact h.handedOver
  | _ => exact handedOver_of_slot rfl

end HandedOver

section Accounts

/-- The accounts of threads, from each of which so many items were taken. -/
inductive Accounts : List (Thread α ω) → List Nat → Prop where
  | source {t : Thread α ω} {k : Nat} : KeepsOne t 0 k → Accounts [t] [k]
  | stage {t u : Thread α ω} {ts : List (Thread α ω)} {k l : Nat} {ks : List Nat} :
    KeepsOne t l k → Accounts (u :: ts) (l :: ks) → Accounts (t :: u :: ts) (k :: l :: ks)

variable {t u : Thread α ω} {ts us : List (Thread α ω)} {k l : Nat} {ks : List Nat}

lemma Accounts.head (h : Accounts (t :: ts) (k :: ks)) : ∃ before, KeepsOne t before k ∧
    ∀ u l, KeepsOne u before l → Accounts (u :: ts) (l :: ks) := by
  cases h with
  | source hk => exact ⟨0, hk, fun _ _ => .source⟩
  | stage hk h => exact ⟨_, hk, fun _ _ hk' => .stage hk' h⟩

lemma Accounts.length_eq (ha : Accounts ts ks) : ks.length = ts.length := by
  induction ha with
  | source => rfl
  | stage _ _ ih => exact congrArg (· + 1) ih

lemma countHandedOver_taken {x : α} (hs : Sound t) (hslot : t.out.slot = some x) :
    countHandedOver (t :: ts) ({ t with out := { t.out with slot := none } } :: ts) (k :: ks) =
      (k + 1) :: ks := by
  have htaken : t.handedOver { t with out := { t.out with slot := none } } = true := by
    simp only [Thread.handedOver, hslot, hs.slot x hslot]
    rfl
  rw [countHandedOver, htaken, countHandedOver_self, Bool.toNat_true]

lemma Accounts.taken {x : α} (h : Accounts (t :: ts) (k :: ks)) (hs : Sound t)
    (hslot : t.out.slot = some x) :
    Accounts ({ t with out := { t.out with slot := none } } :: ts) ((k + 1) :: ks) := by
  obtain ⟨before, hk, hreplace⟩ := h.head
  exact hreplace _ _ (hk.taken (hs.slot x hslot) hslot)

lemma Accounts.cancel (h : Accounts (t :: ts) (k :: ks)) :
    Accounts ({ t with out := t.out.cancel } :: ts) (k :: ks) := by
  obtain ⟨before, hk, hreplace⟩ := h.head
  exact hreplace _ _ ⟨hk.le, hk.le_succ, hk.inLoop⟩

variable [Writer ω] {source : Source α} {ps : List (α → Passed α)}

lemma Moves.accounts (h : Moves ts us) (hl : Linked source ps ts)
    (hkeeps : ∀ p ∈ ps, ∀ x, p x ≠ .dropped) (ha : Accounts ts ks) :
    Accounts us (countHandedOver ts us ks) := by
  induction h generalizing ps ks with
  | @alone t t' ts h =>
    have hstage : ∀ s x, t.worker = .stage s → passed s x ≠ .dropped := by
      intro s x hw
      cases hl with
      | source hw' => cases hw'.symm.trans hw
      | stage hw' =>
        obtain rfl := Worker.stage.inj (hw'.symm.trans hw)
        exact hkeeps _ List.mem_cons_self x
    cases ks with
    | nil => cases ha
    | cons k ks =>
      obtain ⟨before, hk, hreplace⟩ := ha.head
      rw [countHandedOver_cons h.handedOver, countHandedOver_self]
      exact hreplace _ _ (h.keepsOne hstage hk)
  | pulled t u s x ts hpos _ hslot =>
    cases ha with
    | stage hk ha =>
      cases hl with
      | stage _ _ _ hl =>
        -- one item more, both for what `t` got and for what was taken from `u`
        rw [countHandedOver_goTo, countHandedOver_taken hl.sound hslot]
        exact .stage (hk.takes hpos x) (ha.taken hl.sound hslot)
  | sawEnd t u s ts =>
    cases ha with
    | stage hk ha =>
      rw [countHandedOver_goTo, countHandedOver_self]
      exact .stage (hk.leave rfl rfl) ha
  | joined t u broke ts =>
    cases ha with
    | stage hk ha =>
      rw [countHandedOver_goTo, countHandedOver_self]
      exact .stage (hk.leave rfl rfl) ha
  | released t u broke ts =>
    cases ha with
    | stage hk ha =>
      rw [countHandedOver_goTo, countHandedOver_cancel]
      exact .stage (hk.leave rfl rfl) ha.cancel
  | awaited t u broke broke' ts =>
    cases ha with
    | stage hk ha =>
      rw [countHandedOver_goTo, countHandedOver_self]
      exact .stage (hk.leave rfl rfl) ha
  | before t h ih =>
    cases ha with
    | source => cases h
    | stage hk ha =>
      cases hl with
      | stage _ _ _ hl =>
        -- what `t` got is what was taken from the last of `ts`, and no step among these changes it
        have hrest := ih hl (fun p hp => hkeeps p (List.mem_cons_of_mem _ hp)) ha
        obtain ⟨u', us', rfl, -⟩ := h.head
        rw [countHandedOver_cons h.handedOver] at hrest
        rw [countHandedOver_self_cons, countHandedOver_cons h.handedOver]
        exact .stage hk hrest

lemma accounts_start (source : Source α) (stages : List (Stage α ω)) :
    Accounts (start source stages).threads (List.replicate (stages.length + 1) 0) := by
  have hfresh : ∀ w : Worker α ω, drawnBy w = 0 → KeepsOne { worker := w } 0 0 := by
    intro w hw
    exact .of_inLoop (by rw [hw]; rfl)
  induction stages with
  | nil => exact .source (hfresh _ rfl)
  | cons s stages ih =>
    obtain ⟨t, ts, hthreads⟩ := (linked_start source stages).exists_cons
    have hstart : (start source (s :: stages)).threads = { worker := .stage s } :: t :: ts := by
      rw [← hthreads]
      rfl
    rw [hthreads, List.replicate_succ] at ih
    rw [hstart, List.length_cons, List.replicate_succ, List.replicate_succ]
    exact .stage (hfresh _ rfl) ih

lemma Accounts.forall₂ (ha : Accounts ts ks) (hl : Linked source ps ts) :
    List.Forall₂ (fun got handed => handed ≤ got ∧ got ≤ handed + 1)
      (ks.tail ++ [drawn ts]) ks := by
  induction ha generalizing ps with
  | @source t k hk =>
    have hle := hk.le
    have hle_succ := hk.le_succ
    rw [Nat.zero_add] at hle hle_succ
    exact .cons ⟨hle, hle_succ⟩ .nil
  | @stage t u ts k l ks hk ha ih =>
    cases hl with
    | stage hw _ _ hl =>
      have hdrawn : drawnBy t.worker = 0 := by rw [hw]; rfl
      have hle := hk.le
      have hle_succ := hk.le_succ
      rw [hdrawn, Nat.add_zero] at hle hle_succ
      rw [drawn, hdrawn, Nat.zero_add]
      exact .cons ⟨hle, hle_succ⟩ (ih hl)

lemma Accounts.drawn_le (ha : Accounts ts (k :: ks)) (hl : Linked source ps ts) :
    drawn ts ≤ k + ts.length := by
  generalize hks : k :: ks = ls at ha
  induction ha generalizing ps k ks with
  | @source t k hk =>
    obtain ⟨rfl, rfl⟩ := List.cons.inj hks
    have hle := hk.le_succ
    simp only [drawn, List.length_singleton]
    omega
  | @stage t u ts k l ks hk ha ih =>
    obtain ⟨rfl, rfl⟩ := List.cons.inj hks
    cases hl with
    | stage hw _ _ hl =>
      have hrest := ih hl rfl
      have hle := hk.le_succ
      rw [drawn, hw]
      rw [hw] at hle
      simp only [drawnBy, List.length_cons] at hle hrest ⊢
      omega

end Accounts

section Network

variable {n m : Network α ω} {ks : List Nat}

/-- The accounts of the threads of a network agree with what its consumer took. -/
structure Balanced (n : Network α ω) (ks : List Nat) : Prop where
  accounts : Accounts n.threads ks
  taken : ks.head? = some n.taken

lemma taken_of_item {x : α} (h : m.seen = n.seen ++ [some (.ok x)]) : m.taken = n.taken + 1 := by
  unfold Network.taken
  rw [h, List.countP_append, List.countP_singleton]
  rfl

lemma taken_of_noItem {x : Option (Except String α)} (h : m.seen = n.seen ++ [x])
    (hx : ∀ y, x ≠ some (.ok y)) : m.taken = n.taken := by
  unfold Network.taken
  rw [h, List.countP_append, List.countP_singleton]
  rcases x with _ | _ | y
  · rfl
  · rfl
  · exact absurd rfl (hx y)

lemma Balanced.exists_cons (h : Balanced n ks) : ∃ ls, ks = n.taken :: ls := by
  obtain ⟨-, htaken⟩ := h
  exact List.head?_eq_some_iff.mp htaken

lemma Balanced.of_threads (h : Balanced n ks) (hthreads : m.threads = n.threads)
    (htaken : m.taken = n.taken) : Balanced m (countHandedOver n.threads m.threads ks) := by
  rw [hthreads, countHandedOver_self]
  exact ⟨hthreads ▸ h.accounts, htaken ▸ h.taken⟩

variable [Writer ω] {source : Source α} {ps : List (α → Passed α)}

lemma balanced_start (source : Source α) (stages : List (Stage α ω)) :
    Balanced (start source stages) (List.replicate (stages.length + 1) 0) :=
  ⟨accounts_start source stages, rfl⟩

lemma Balanced.step (h : Balanced n ks) (ho : InOrder source ps n)
    (hkeeps : ∀ p ∈ ps, ∀ x, p x ≠ .dropped) (hstep : Network.Step n m) :
    Balanced m (countHandedOver n.threads m.threads ks) := by
  obtain ⟨ls, rfl⟩ := h.exists_cons
  have haccounts := h.accounts
  have hl := ho.linked
  cases hstep with
  | thread hts =>
    have hmoves := moves_of_step hts
    refine ⟨hmoves.accounts hl hkeeps haccounts, ?_⟩
    obtain ⟨t, ts, hthreads⟩ := hl.exists_cons
    rw [hthreads] at hmoves ⊢
    obtain ⟨t', ts', rfl, -⟩ := hmoves.head
    rw [countHandedOver_cons hmoves.handedOver]
    rfl
  | beginNext => exact h.of_threads rfl rfl
  | nextAtEnd => exact h.of_threads rfl (taken_of_noItem rfl nofun)
  | take t ts x out _ hts _ htake =>
    obtain ⟨hslot, rfl⟩ := take_ok htake
    rw [hts] at haccounts hl ⊢
    rw [countHandedOver_taken hl.sound hslot]
    have htaken : Network.taken { n with
        threads := { t with out := { t.out with slot := none } } :: ts
        consumer := .idle
        seen := n.seen ++ [some (.ok x)] } = n.taken + 1 := taken_of_item rfl
    exact ⟨haccounts.taken hl.sound hslot, congrArg some htaken.symm⟩
  | meetEnd => exact h.of_threads rfl rfl
  | join t ts broke =>
    refine h.of_threads rfl (taken_of_noItem rfl ?_)
    cases broke <;> nofun
  | letGo t ts _ hts =>
    rw [hts] at haccounts ⊢
    rw [countHandedOver_cancel]
    exact ⟨haccounts.cancel, rfl⟩
  | await => exact h.of_threads rfl rfl

end Network

section Consumer

variable {w : Lookahead α ω}

lemma inner_receive (w : Lookahead α ω) (x : Option (Except String α)) :
    (w.receive x).inner = w.inner ∧ (w.receive x).handedOver = w.handedOver := by
  unfold Lookahead.receive
  rcases x with _ | _ | x
  · by_cases hlooking : w.looking = true
    · simp only [hlooking, if_true, and_self]
    · simp only [hlooking, Bool.false_eq_true, if_false, and_self]
  · exact ⟨rfl, rfl⟩
  · by_cases hlooking : w.looking = true
    · simp only [hlooking, if_true, and_self]
    · simp only [hlooking, Bool.false_eq_true, if_false, and_self]

lemma taken_receive_item (hcached : w.cached = none) (x : α) :
    (w.receive (some (.ok x))).taken = w.taken + 1 := by
  unfold Lookahead.receive
  by_cases hlooking : w.looking = true
  · simp [hlooking, Lookahead.taken, Peekable.held, hcached]
  · simp [hlooking, Lookahead.taken, Peekable.held, hcached]

lemma taken_receive_noItem (hcached : w.cached = none) {x : Option (Except String α)}
    (hx : ∀ y, x ≠ some (.ok y)) : (w.receive x).taken = w.taken := by
  unfold Lookahead.receive
  rcases x with _ | _ | x
  · by_cases hlooking : w.looking = true
    · simp [hlooking, Lookahead.taken, Peekable.held, hcached]
    · simp [hlooking]
  · rfl
  · exact absurd rfl (hx x)

variable [Writer ω] {source : Source α} {stages : List (Stage α ω)} {ps : List (α → Passed α)}
  {v : Lookahead α ω}

lemma seen_of_step {n m : Network α ω} (h : Network.Step n m) :
    m.seen = n.seen ∨ ∃ x, m.seen = n.seen ++ [x] := by
  cases h with
  | nextAtEnd | take | join => exact .inr ⟨_, rfl⟩
  | _ => exact .inl rfl

/-- The accounts agree with what the consumer was given and holds back. -/
structure KeepsAccounts (source : Source α) (ps : List (α → Passed α)) (w : Lookahead α ω) : Prop where
  order : InOrder source ps w.inner
  balanced : Balanced w.inner w.handedOver
  taken : w.inner.taken = w.taken

lemma keepsAccounts_start (source : Source α) (stages : List (Stage α ω)) :
    KeepsAccounts source (stages.map passed) (.start source stages) :=
  ⟨inOrder_start source stages, balanced_start source stages, rfl⟩

lemma KeepsAccounts.step (h : KeepsAccounts source ps w) (hkeeps : ∀ p ∈ ps, ∀ x, p x ≠ .dropped)
    (hstep : Lookahead.Step w v) : KeepsAccounts source ps v := by
  cases hstep with
  | choose looking => exact ⟨h.order, h.balanced, h.taken⟩
  | @inside n hnet hseen =>
    have htaken : n.taken = w.inner.taken := by
      unfold Network.taken
      rw [hseen]
    exact ⟨h.order.step hnet, h.balanced.step h.order hkeeps hnet, htaken.trans h.taken⟩
  | @draws n x hnet hseen hcached =>
    obtain ⟨hinner, hhanded⟩ := inner_receive (w.onto n) x
    refine ⟨?_, ?_, ?_⟩
    · rw [hinner]
      exact h.order.step hnet
    · rw [hinner, hhanded]
      exact h.balanced.step h.order hkeeps hnet
    · rw [hinner]
      by_cases hx : ∃ y, x = some (.ok y)
      · obtain ⟨y, rfl⟩ := hx
        rw [taken_receive_item (w := w.onto n) hcached y]
        exact (taken_of_item hseen).trans (congrArg (· + 1) h.taken)
      · have hx' : ∀ y, x ≠ some (.ok y) := fun y hy => hx ⟨y, hy⟩
        rw [taken_receive_noItem (w := w.onto n) hcached hx']
        exact (taken_of_noItem hseen hx').trans h.taken
  | heldBack x _ hcached =>
    refine ⟨h.order, h.balanced, h.taken.trans ?_⟩
    cases x <;> simp [Lookahead.taken, Peekable.held, hcached]

lemma KeepsAccounts.reaches (h : KeepsAccounts source ps w) (hkeeps : ∀ p ∈ ps, ∀ x, p x ≠ .dropped)
    (hrun : Lookahead.Reaches w v) : KeepsAccounts source ps v := by
  induction hrun with
  | refl => exact h
  | step _ hstep ih => exact ih.step hkeeps hstep

lemma passed_ne_dropped {s : Stage α ω} (hs : ∀ keep, s ≠ .filter keep) (x : α) :
    passed s x ≠ .dropped := by
  cases s with
  | transform f => cases h : f x <;> simp [passed, Stage.push, h]
  | filter keep => exact absurd rfl (hs keep)
  | tap breaks t => cases h : breaks x <;> simp [passed, Stage.push, h]

/-- In a chain of transforms and taps, at any time, the source is ahead of the consumer by one item
for each thread at most: every thread has kept one at most of the items that it got from the one
before it. What the consumer holds back to look at counts as taken. -/
theorem pulled_le_taken_add_threads (source : Source α) (stages : List (Stage α ω))
    (hkeeps : ∀ s ∈ stages, ∀ keep, s ≠ .filter keep) (w : Lookahead α ω)
    (hrun : Lookahead.Reaches (.start source stages) w) :
    w.inner.pulled ≤ w.taken + (stages.length + 1) ∧
      w.handedOver.length = stages.length + 1 ∧ w.handedOver.head? = some w.taken ∧
      List.Forall₂ (fun got handed => handed ≤ got ∧ got ≤ handed + 1) w.got w.handedOver := by
  have hpassed : ∀ p ∈ stages.map passed, ∀ x, p x ≠ .dropped := by
    intro p hp x
    obtain ⟨s, hs, rfl⟩ := List.mem_map.mp hp
    exact passed_ne_dropped (hkeeps s hs) x
  have h := (keepsAccounts_start source stages).reaches hpassed hrun
  have hl := h.order.linked
  have hpulled := hl.pulled
  have hlength := hl.length
  rw [List.length_map] at hlength
  have haccounts := h.balanced.accounts
  have hhead := h.balanced.taken
  have hforall := haccounts.forall₂ hl
  obtain ⟨ls, hls⟩ := h.balanced.exists_cons
  rw [hls] at haccounts
  have hle := haccounts.drawn_le hl
  rw [h.taken] at hhead hle
  rw [hlength] at hle
  refine ⟨hpulled ▸ hle, ?_, hhead, ?_⟩
  · rw [hls, haccounts.length_eq, hlength]
  · rw [Lookahead.got, hpulled]
    exact hforall

theorem exists_lookahead_of_reaches {n : Network α ω} (hrun : Network.Reaches (start source stages) n) :
    ∃ w, Lookahead.Reaches (.start source stages) w ∧ w.inner = n ∧ w.cached = none := by
  suffices h : ∃ w, Lookahead.Reaches (.start source stages) w ∧ w.inner = n ∧ w.cached = none ∧
      w.looking = false by
    obtain ⟨w, hw, hinner, hcached, -⟩ := h
    exact ⟨w, hw, hinner, hcached⟩
  generalize hstart : start source stages = n₀ at hrun
  induction hrun with
  | refl => exact ⟨_, .refl _, hstart, rfl, rfl⟩
  | @step n m _ hstep ih =>
    obtain ⟨w, hw, rfl, hcached, hlooking⟩ := ih
    rcases seen_of_step hstep with hseen | ⟨x, hseen⟩
    · exact ⟨w.onto m, .step hw (.inside w hstep hseen fun _ _ => hcached), rfl, hcached, hlooking⟩
    · have hdraws := Lookahead.Step.draws w x hstep hseen hcached
      refine ⟨_, .step hw hdraws, (inner_receive (w.onto m) x).1, ?_⟩
      have hlooking' : (w.onto m).looking = false := hlooking
      rcases x with _ | _ | y <;>
        simp only [Lookahead.receive, hlooking', Bool.false_eq_true, if_false] <;>
        exact ⟨hcached, trivial⟩

lemma lookahead_threads (hrun : Lookahead.Reaches w v) {us : List (Thread α ω)}
    (h : ThreadSteps v.inner.threads us) :
    ∃ ks, Lookahead.Reaches w
      { v with inner := { v.inner with threads := us }, handedOver := ks } := by
  induction h with
  | refl => exact ⟨v.handedOver, hrun⟩
  | tail _ hstep ih =>
    obtain ⟨ks, hks⟩ := ih
    refine ⟨_, .step hks (.inside _ (.thread _ hstep) rfl ?_)⟩
    intro hidle hreceiving
    cases hidle.symm.trans hreceiving

lemma AtRest.of_cons {k : Nat} {p : α → Passed α} {t : Thread α ω} {ts : List (Thread α ω)}
    (h : AtRest source k (p :: ps) (t :: ts)) :
    ∃ s, t = { worker := .stage s } ∧ AtRest source k ps ts := by
  cases h with
  | stage s h => exact ⟨s, rfl, h⟩

lemma AtRest.of_nil {k : Nat} {ts : List (Thread α ω)} (h : AtRest source k [] ts) :
    ts = [{ worker := .source source k }] := by
  cases h
  rfl

/-- While the consumer looks at its first item, the next two can be on their way. -/
theorem pulled_le_taken_add_threads_looking :
    ∃ w : Lookahead Nat Sink,
      Lookahead.Reaches (.start { name := "numbers", item := some, horizon := 0 }
        [.transform .ok]) w ∧
      w.given = [] ∧ w.held = [0] ∧ w.inner.pulled = 3 ∧ w.inner.pulled ≤ w.taken + 2 := by
  let source : Source Nat := { name := "numbers", item := some, horizon := 0 }
  let s : Stage Nat Sink := .transform .ok
  have hrest : AtRest source 0 [passed s] (start source [s]).threads := .stage s .source
  obtain ⟨worker, us, hfirst, hbehind⟩ := hrest.steps_item rfl rfl
  obtain ⟨s', hworker, hbehind⟩ := hbehind.of_cons
  obtain rfl := hbehind.of_nil
  obtain rfl : worker = .stage s' := congrArg Thread.worker hworker
  -- the first item waits for the consumer, and the second one behind it
  have hwaiting : ∃ ks, Lookahead.Reaches (.start source [s])
      { inner := { threads := [handing (.stage s') 0, handing (.source source 2) 1] }
        handedOver := ks } :=
    lookahead_threads (.refl (.start source [s])) (hfirst.trans ((draw_steps rfl).before _))
  have hlooks : ∃ ks, Lookahead.Reaches (.start source [s])
      { inner :=
          { threads :=
              [{ worker := .stage s', position := .settling }, handing (.source source 2) 1]
            seen := [some (.ok 0)] }
        cached := some (some 0)
        looking := true
        handedOver := ks } := by
    obtain ⟨ks, hks⟩ := hwaiting
    have hchooses := Lookahead.Reaches.step hks (.choose _ true rfl)
    have hbegins := Lookahead.Reaches.step hchooses
      (.inside _ (.beginNext _ rfl rfl) rfl fun _ _ => rfl)
    have hdraws := Lookahead.Reaches.step hbegins
      (.draws _ _ (.take _ _ _ 0 _ rfl rfl rfl rfl) rfl rfl)
    exact ⟨_, hdraws⟩
  -- the stage goes on to the second item, and the source to the third
  obtain ⟨ks, hks⟩ := hlooks
  have hsettles : ThreadStep
      [{ worker := .stage s', position := .settling }, handing (.source source 2) 1]
      [{ worker := .stage s' }, handing (.source source 2) 1] := .settle _ _ rfl rfl
  have hgoesOn : ThreadSteps
      [{ worker := .stage s', position := .settling }, handing (.source source 2) 1]
      [{ worker := .stage s', position := .holding 1 }, handing (.source source 3) 2] :=
    (Relation.ReflTransGen.head hsettles (holding_steps s' .refl)).trans
      ((draw_steps rfl).before _)
  obtain ⟨ls, hrun⟩ := lookahead_threads hks hgoesOn
  refine ⟨_, hrun, rfl, rfl, rfl, ?_⟩
  have hkeeps : ∀ t ∈ [s], ∀ keep, t ≠ .filter keep := by
    intro t ht keep
    rw [List.mem_singleton.mp ht]
    nofun
  exact (pulled_le_taken_add_threads source [s] hkeeps _ hrun).1

end Consumer

end SourceSplice.Proofs
