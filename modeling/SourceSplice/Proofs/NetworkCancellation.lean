import SourceSplice.Proofs.NetworkDelivery
/-!
# How a network comes to its end

A consumer that lets go of a chain cancels the channel of the last thread. Every other thread gets
to know of it only when its reader has left the loop, and a reader that waits for an item cannot
leave. If no item is dropped on the way to the last stage, every reader gets its item, and all
threads end after at most one more item for each; `demand` counts the items. A stage further in
front that drops items may starve its reader, which never learns that it is no longer wanted: the
chain runs on as long as its source does.
-/

namespace SourceSplice.Proofs
open Generator Generator.Network

variable {α ω : Type}

/-- What the threads owe to a consumer that lets go, and waits for them to end. -/
structure StopsPromptly [Writer ω] (source : Source α) (stages : List (Stage α ω)) : Prop where
  /-- Not more items are drawn from the source than there are threads. -/
  pulls : ∀ n m, Reaches (start source stages) n → n.consumer = .awaiting → Reaches n m →
    m.pulled ≤ n.pulled + (stages.length + 1)
  /-- There are only so many further steps, whichever are taken. -/
  bounded : ∀ n, Reaches (start source stages) n → n.consumer = .awaiting →
    ∃ bound, ∀ k m, Takes k n m → k ≤ bound
  /-- There are further steps until the consumer is gone. -/
  progress : ∀ n, Reaches (start source stages) n → n.consumer = .awaiting → ∃ m, Step n m
  /-- The consumer is not gone before all threads have ended. -/
  ended : ∀ n, Reaches (start source stages) n → n.consumer = .gone → n.Ended

section Demand

/-- The number of items that can still come to a thread, if its reader takes so many from it. A
thread works ahead by one item. -/
def need (k : Nat) (t : Thread α ω) : Nat :=
  match t.position, t.out.cancelled with
  | .pulling, true => 1
  | .checking, false | .pulling, false => k + 1
  | .holding _, false | .offering _, false => k
  | .settling, false => if t.out.slot.isSome then k else k + 1
  | _, _ => 0

/-- A bound on the number of items that can still be drawn from the source, if so many are taken
from the last thread. -/
def demand (k : Nat) : List (Thread α ω) → Nat
  | [] => k
  | t :: ts => demand (need k t) ts

/-- A bound on the number of steps that the threads can still take, if so many items are taken from
the last one. -/
def windDown (k : Nat) : List (Thread α ω) → Nat
  | [] => 0
  | t :: ts => 5 * need k t + stepsLeft t.position + windDown (need k t) ts

/-- The number of items drawn by threads. -/
def drawn : List (Thread α ω) → Nat
  | [] => 0
  | t :: ts => drawnBy t.worker + drawn ts

variable {t t' : Thread α ω} {i j : Nat}

lemma need_mono (h : i ≤ j) (t : Thread α ω) : need i t ≤ need j t := by
  unfold need
  split <;> try split
  all_goals omega

lemma demand_mono (h : i ≤ j) (ts : List (Thread α ω)) : demand i ts ≤ demand j ts := by
  induction ts generalizing i j with
  | nil => exact h
  | cons t ts ih => exact ih (need_mono h t)

lemma windDown_mono (h : i ≤ j) (ts : List (Thread α ω)) : windDown i ts ≤ windDown j ts := by
  induction ts generalizing i j with
  | nil => exact le_rfl
  | cons t ts ih =>
    have hneed := need_mono h t
    have hrest := ih hneed
    simp only [windDown]
    omega

lemma need_cancel (t : Thread α ω) : need 0 { t with out := t.out.cancel } ≤ need 0 t := by
  cases hpos : t.position <;> cases hc : t.out.cancelled <;> simp [need, Channel.cancel, hpos, hc]

/-- A thread that gets an item asks for one less, and the thread before it works ahead again. -/
lemma need_pulled {u : Thread α ω} {x : α} (hpos : t.position = .pulling)
    (hu : u.position = .settling) (hc : u.out.cancelled = false) (hx : u.out.slot = some x)
    (k : Nat) :
    need k t = need k { t with position := .holding x } + 1 ∧
      need (need k { t with position := .holding x })
          { u with out := { u.out with slot := none } } =
        need (need k t) u := by
  have ht : need k t = need k { t with position := .holding x } + 1 := by
    cases hct : t.out.cancelled <;> simp [need, hpos, hct]
  refine ⟨ht, ?_⟩
  rw [ht]
  simp [need, hu, hc, hx]

lemma need_le (k : Nat) (t : Thread α ω) : need k t ≤ k + 1 := by
  unfold need
  split <;> try split
  all_goals omega

/-- Each thread works ahead by one item of its own. -/
lemma demand_le (k : Nat) (ts : List (Thread α ω)) : demand k ts ≤ k + ts.length := by
  induction ts generalizing k with
  | nil => exact le_rfl
  | cons t ts ih =>
    have hle := (ih (need k t)).trans (Nat.add_le_add_right (need_le k t) ts.length)
    rw [List.length_cons, demand]
    omega

lemma demand_cons_le {k : Nat} (hneed : need k t' ≤ need k t)
    (hdrawn : drawnBy t'.worker = drawnBy t.worker)
    (hsteps : stepsLeft t'.position < stepsLeft t.position) (ts : List (Thread α ω)) :
    demand k (t' :: ts) + drawn (t' :: ts) ≤ demand k (t :: ts) + drawn (t :: ts) ∧
      windDown k (t' :: ts) < windDown k (t :: ts) := by
  have hdemand := demand_mono hneed ts
  have hdown := windDown_mono hneed ts
  simp only [demand, windDown, drawn, hdrawn]
  omega

variable [Writer ω]

lemma Alone.need_le (h : Alone t t') (hlooks : t.worker.looks = true)
    (hkeeps : t.out.cancelled = false → ∀ s x, t.position = .holding x → t.worker = .stage s →
      passed s x ≠ .dropped) (k : Nat) :
    need k t' + drawnBy t'.worker ≤ need k t + drawnBy t.worker := by
  cases h with
  | goOn hpos hl =>
    cases hc : t.out.cancelled with
    | true => cases hlooks.symm.trans (hl hc)
    | false => simp only [need, hpos, hc, le_refl]
  | turnBack hpos hc => simp [need, hc]
  | drawn s j x hpos hw =>
    simp only [need, hpos, hw, drawnBy]
    cases t.out.cancelled <;> simp only <;> omega
  | dry _ _ hpos => simp [need]
  | handedOn _ _ _ _ hpos hw =>
    simp only [need, hpos, hw, drawnBy]
    cases t.out.cancelled <;> exact le_rfl
  | dropped s s' x hpos hw hpush =>
    cases hc : t.out.cancelled with
    | true => simp [need, hpos, hw, hc, drawnBy]
    | false => exact absurd (passed_of_push hpush).1 (hkeeps hc s x hpos hw)
  | broke _ _ _ _ hpos hw => simp [need, hw, drawnBy]
  | put x hpos hc => simp [need, hpos, hc]
  | refused x hpos => simp [need]
  | delivered hpos hslot =>
    simp only [need, hpos, hslot]
    cases t.out.cancelled <;> exact le_rfl
  | retracted hpos => simp [need]
  | closedSource _ _ _ hpos => simp [need]
  | closedStage _ _ _ hpos hw => simp [need, hw, drawnBy]

end Demand

section Keeping

/-- Whether no item is dropped by stages that make this of one, the last of them first. -/
def Keeps (ps : List (α → Passed α)) : Prop :=
  ∀ x, Passed.byAll ps.reverse x ≠ .dropped

/-- Whether an item can come out of stages that make this of one, the last of them first. -/
def Comes (ps : List (α → Passed α)) (y : α) : Prop :=
  ∃ x, Passed.byAll ps.reverse x = .item y

/-- What a thread has in its hands came out of the stages behind it; `ps` is what its own stage and
these make of an item. -/
structure Carries (ps : List (α → Passed α)) (t : Thread α ω) : Prop where
  offering : ∀ y, t.position = .offering y → Comes ps y
  slot : ∀ y, t.out.slot = some y → Comes ps y
  holding : ∀ x, t.position = .holding x → Comes ps.tail x

/-- Every item under way has come through the stages behind it. -/
def UnderWay : List (α → Passed α) → List (Thread α ω) → Prop
  | _, [] => True
  | ps, t :: ts => Carries ps t ∧ UnderWay ps.tail ts

variable {source : Source α} {p : α → Passed α} {ps : List (α → Passed α)} {t t' : Thread α ω}
  {ts us : List (Thread α ω)}

lemma byAll_reverse_cons (p : α → Passed α) (ps : List (α → Passed α)) (x : α) :
    Passed.byAll (p :: ps).reverse x = (Passed.byAll ps.reverse x).andThen p := by
  rw [List.reverse_cons, Passed.byAll_concat]

lemma Keeps.of_cons (h : Keeps (p :: ps)) : Keeps ps := by
  intro x hx
  refine h x ?_
  rw [byAll_reverse_cons, hx, Passed.andThen]

lemma Keeps.tail (h : Keeps ps) : Keeps ps.tail := by
  cases ps with
  | nil => exact h
  | cons p ps => exact h.of_cons

lemma Keeps.ne_dropped (h : Keeps (p :: ps)) {y : α} (hy : Comes ps y) : p y ≠ .dropped := by
  obtain ⟨x, hx⟩ := hy
  have hkeeps := h x
  rwa [byAll_reverse_cons, hx] at hkeeps

lemma Comes.cons {x y : α} (hx : Comes ps x) (hp : p x = .item y) : Comes (p :: ps) y := by
  obtain ⟨z, hz⟩ := hx
  exact ⟨z, by rw [byAll_reverse_cons, hz, Passed.andThen, hp]⟩

lemma carries_source (t : Thread α ω) : Carries [] t :=
  ⟨fun y _ => ⟨y, rfl⟩, fun y _ => ⟨y, rfl⟩, fun x _ => ⟨x, rfl⟩⟩

lemma Carries.withOut {out : Channel α} (h : Carries ps t)
    (hslot : ∀ y, out.slot = some y → t.out.slot = some y) : Carries ps { t with out := out } :=
  ⟨h.offering, fun y hy => h.slot y (hslot y hy), h.holding⟩

variable [Writer ω]

lemma Alone.carries {s : Stage α ω} (h : Alone t t') (hw : t.worker = .stage s)
    (hc : Carries (passed s :: ps) t) : Carries (passed s :: ps) t' := by
  cases h with
  | drawn _ _ _ _ hw' => cases hw.symm.trans hw'
  | dry _ _ _ hw' => cases hw.symm.trans hw'
  | closedSource _ _ _ _ hw' => cases hw.symm.trans hw'
  | handedOn s _ x y hpos hw' hpush =>
    cases hw.symm.trans hw'
    refine ⟨?_, hc.slot, nofun⟩
    rintro _ ⟨rfl⟩
    exact (hc.holding x hpos).cons (passed_of_push hpush).1
  | put x hpos =>
    refine ⟨nofun, ?_, nofun⟩
    rintro _ ⟨rfl⟩
    exact hc.offering x hpos
  | retracted => exact ⟨nofun, nofun, nofun⟩
  | _ => exact ⟨nofun, hc.slot, nofun⟩

lemma underWay_start (source : Source α) (stages : List (Stage α ω)) :
    UnderWay (stages.map passed) (start source stages).threads := by
  induction stages with
  | nil => exact ⟨carries_source _, trivial⟩
  | cons s stages ih => exact ⟨⟨nofun, nofun, nofun⟩, ih⟩

lemma Moves.underWay (h : Moves ts us) (hl : Linked source ps ts) (hu : UnderWay ps ts) :
    UnderWay ps us := by
  induction h generalizing ps with
  | alone ts h =>
    cases hl with
    | source => exact ⟨carries_source _, trivial⟩
    | stage hw => exact ⟨h.carries hw hu.1, hu.2⟩
  | pulled t u s x ts hpos hw hx =>
    obtain ⟨hct, hcu, hrest⟩ := hu
    refine ⟨⟨nofun, hct.slot, ?_⟩, hcu.withOut nofun, hrest⟩
    rintro _ ⟨rfl⟩
    exact hcu.slot x hx
  | sawEnd => exact ⟨⟨nofun, hu.1.slot, nofun⟩, hu.2⟩
  | joined => exact ⟨⟨nofun, hu.1.slot, nofun⟩, hu.2⟩
  | released =>
    obtain ⟨hct, hcu, hrest⟩ := hu
    exact ⟨⟨nofun, hct.slot, nofun⟩, hcu.withOut fun _ => id, hrest⟩
  | awaited => exact ⟨⟨nofun, hu.1.slot, nofun⟩, hu.2⟩
  | before t h ih =>
    cases hl with
    | source => cases h
    | stage _ _ _ hl => exact ⟨hu.1, ih hl hu.2⟩

lemma Moves.demand_le (hlooks : source.looks = true) (h : Moves ts us) (hl : Linked source ps ts)
    (hu : UnderWay ps ts) (hkeeps : Keeps ps.tail)
    (hhead : ∀ t ts', ts = t :: ts' → t.out.cancelled = false → Keeps ps) (k : Nat) :
    demand k us + drawn us ≤ demand k ts + drawn ts ∧ windDown k us < windDown k ts := by
  induction h generalizing ps k with
  | @alone t t' ts h =>
    have hsteps := h.stepsLeft_lt
    cases hl with
    | source hw =>
      have hneed := h.need_le (by rw [hw]; exact hlooks)
        (fun _ _ _ _ hw' => by cases hw.symm.trans hw') k
      simp only [demand, windDown, drawn]
      omega
    | @stage _ u ts _ _ hw =>
      have hkept : t.out.cancelled = false → ∀ s x, t.position = .holding x →
          t.worker = .stage s → passed s x ≠ .dropped := by
        intro hc s x hpos hw'
        cases hw.symm.trans hw'
        exact (hhead t _ rfl hc).ne_dropped (hu.1.holding x hpos)
      have hneed := h.need_le (by rw [hw]; rfl) hkept k
      obtain ⟨s', hw', -⟩ := h.of_stage hw
      have hdrawn : drawnBy t'.worker = drawnBy t.worker := by rw [hw, hw']; rfl
      rw [hdrawn] at hneed hsteps
      exact demand_cons_le (Nat.le_of_add_le_add_right hneed) hdrawn
        (Nat.lt_of_add_lt_add_right hsteps.2) (u :: ts)
  | pulled t u s x ts hpos hw hx =>
    cases hl with
    | stage _ _ hj hl =>
      have hc : u.out.cancelled = false := hj.cancelled.trans (by rw [hpos]; rfl)
      -- the reader needs one item less, and the other thread works ahead again
      obtain ⟨ht, hsame⟩ := need_pulled hpos (hl.sound.slot x hx) hc hx k
      simp only [demand, windDown, drawn, hsame, hpos, stepsLeft]
      omega
  | sawEnd t u s ts hpos =>
    have hneed : need k { t with position := .joining } ≤ need k t := Nat.zero_le _
    have hsteps : stepsLeft (.joining : ThreadAt α) < stepsLeft t.position := by
      rw [hpos]
      exact Nat.lt_succ_self _
    exact demand_cons_le hneed rfl hsteps (u :: ts)
  | joined t u broke ts hpos =>
    have hneed : need k { t with position := .leaving broke } ≤ need k t := Nat.zero_le _
    have hsteps : stepsLeft (.leaving broke : ThreadAt α) < stepsLeft t.position := by
      rw [hpos]
      exact Nat.lt_succ_self _
    exact demand_cons_le hneed rfl hsteps (u :: ts)
  | released t u broke ts hpos =>
    have hzero : need k t = 0 := by simp only [need, hpos]
    have hzero' : need k { t with position := .awaiting broke } = 0 := rfl
    have hdemand := demand_mono (need_cancel u) ts
    have hdown := windDown_mono (need_cancel u) ts
    have hneed := need_cancel u
    simp only [demand, windDown, drawn, hzero, hzero', hpos, stepsLeft]
    omega
  | awaited t u broke broke' ts hpos =>
    have hneed : need k { t with position := .ended broke } ≤ need k t := Nat.zero_le _
    have hsteps : stepsLeft (.ended broke : ThreadAt α) < stepsLeft t.position := by
      rw [hpos]
      exact Nat.lt_succ_self _
    exact demand_cons_le hneed rfl hsteps (u :: ts)
  | before t h ih =>
    cases hl with
    | source => cases h
    | stage _ _ _ hl =>
      obtain ⟨hdemand, hdown⟩ := ih hl hu.2 hkeeps.tail (fun _ _ _ _ => hkeeps) (need k t)
      simp only [demand, windDown, drawn] at hdemand hdown ⊢
      omega

end Keeping

section LettingGo

variable [Writer ω]
variable {source : Source α} {ps : List (α → Passed α)} {ts : List (Thread α ω)}
  {n m : Network α ω}

lemma Linked.pulled (hl : Linked source ps n.threads) : n.pulled = drawn n.threads := by
  have hlast : ∀ {ps : List (α → Passed α)} {ts : List (Thread α ω)}, Linked source ps ts →
      ∃ t, ts.getLast? = some t ∧ t.worker = .source source (drawn ts) := by
    intro ps ts hl
    induction hl with
    | @source t k hw => exact ⟨t, rfl, by rw [drawn, drawn, hw]; rfl⟩
    | @stage t u ts s ps hw _ _ _ ih =>
      obtain ⟨v, hv, hvw⟩ := ih
      refine ⟨v, by rw [List.getLast?_cons_cons, hv], ?_⟩
      simp only [hvw, drawn, hw, drawnBy, Nat.zero_add]
  obtain ⟨⟨w, p, out⟩, ht, hw⟩ := hlast hl
  obtain rfl : w = _ := hw
  rw [Network.pulled, ht]

lemma underWay_step (hu : UnderWay ps n.threads) (ho : InOrder source ps n)
    (hstep : Step n m) : UnderWay ps m.threads := by
  cases hstep with
  | thread hts => exact (moves_of_step hts).underWay ho.linked hu
  | take t ts x out _ hts _ htake =>
    obtain ⟨-, rfl⟩ := take_ok htake
    rw [hts] at hu
    exact ⟨hu.1.withOut nofun, hu.2⟩
  | letGo t ts _ hts =>
    rw [hts] at hu
    exact ⟨hu.1.withOut fun _ => id, hu.2⟩
  | beginNext => exact hu
  | nextAtEnd => exact hu
  | meetEnd => exact hu
  | join => exact hu
  | await => exact hu

lemma underWay_reaches (hu : UnderWay ps n.threads) (ho : InOrder source ps n)
    (hrun : Reaches n m) : UnderWay ps m.threads := by
  induction hrun with
  | refl => exact hu
  | step hrun hstep ih => exact underWay_step ih (ho.reaches hrun) hstep

/-- A network whose consumer has let go, with what is known of it if nothing is dropped in front of
the last stage. -/
structure LetGo (source : Source α) (ps : List (α → Passed α)) (n : Network α ω) : Prop where
  order : InOrder source ps n
  underWay : UnderWay ps n.threads
  letGo : hasLetGo n.consumer = true

/-- A bound on the number of steps that a network can still take whose consumer has let go. -/
def retreat (n : Network α ω) : Nat :=
  windDown 0 n.threads + consumerSteps n.exhausted n.consumer

lemma LetGo.step (hlooks : source.looks = true) (hkeeps : Keeps ps.tail) (h : LetGo source ps n)
    (hstep : Step n m) : LetGo source ps m ∧
      demand 0 m.threads + m.pulled ≤ demand 0 n.threads + n.pulled ∧ retreat m < retreat n := by
  have ho := h.order.step hstep
  have hu := underWay_step h.underWay h.order hstep
  have hgo := h.letGo
  rw [h.order.linked.pulled, ho.linked.pulled]
  cases hstep with
  | thread hts =>
    have hhead : ∀ t ts', n.threads = t :: ts' → t.out.cancelled = false → Keeps ps := by
      intro t ts' hthreads hc
      cases hc.symm.trans ((h.order.cancelled t ts' hthreads).trans hgo)
    obtain ⟨hdemand, hdown⟩ :=
      (moves_of_step hts).demand_le hlooks h.order.linked h.underWay hkeeps hhead 0
    exact ⟨⟨ho, hu, hgo⟩, hdemand, Nat.add_lt_add_right hdown _⟩
  | await t ts broke hpos hts ht =>
    refine ⟨⟨ho, hu, rfl⟩, le_rfl, ?_⟩
    rw [retreat, retreat, hpos]
    exact Nat.lt_succ_self _
  | beginNext hpos => cases (hpos ▸ hgo : hasLetGo .idle = true)
  | nextAtEnd hpos => cases (hpos ▸ hgo : hasLetGo .idle = true)
  | take _ _ _ _ hpos => cases (hpos ▸ hgo : hasLetGo .receiving = true)
  | meetEnd _ _ _ _ hpos => cases (hpos ▸ hgo : hasLetGo .receiving = true)
  | join _ _ _ hpos => cases (hpos ▸ hgo : hasLetGo .joining = true)
  | letGo _ _ hpos => cases (hpos ▸ hgo : hasLetGo .idle = true)

lemma LetGo.reaches (hlooks : source.looks = true) (hkeeps : Keeps ps.tail)
    (h : LetGo source ps n) (hrun : Reaches n m) : LetGo source ps m ∧
      demand 0 m.threads + m.pulled ≤ demand 0 n.threads + n.pulled := by
  induction hrun with
  | refl => exact ⟨h, le_rfl⟩
  | step _ hstep ih =>
    obtain ⟨hlater, hle, -⟩ := LetGo.step hlooks hkeeps ih.1 hstep
    exact ⟨hlater, hle.trans ih.2⟩

lemma LetGo.takes (hlooks : source.looks = true) (hkeeps : Keeps ps.tail)
    (h : LetGo source ps n) {k : Nat} (hrun : Takes k n m) : k + retreat m ≤ retreat n := by
  induction hrun with
  | none n => omega
  | step hrun hstep ih =>
    have hlater := (h.reaches hlooks hkeeps hrun.reaches).1
    obtain ⟨-, -, hlt⟩ := hlater.step hlooks hkeeps hstep
    have hle := ih h
    omega

lemma Linked.length (hl : Linked source ps ts) : ts.length = ps.length + 1 := by
  induction hl with
  | source => rfl
  | stage _ _ _ _ ih => rw [List.length_cons, ih, List.length_cons]

lemma stopsPromptly_of_keeps (source : Source α) (hlooks : source.looks = true)
    (stages : List (Stage α ω)) (hkeeps : Keeps (stages.map passed).tail) :
    StopsPromptly source stages := by
  have ho := inOrder_start source stages
  have hu := underWay_start source stages
  have hletGo : ∀ n, Reaches (start source stages) n → n.consumer = .awaiting →
      LetGo source (stages.map passed) n :=
    fun n hrun hpos => ⟨ho.reaches hrun, underWay_reaches hu ho hrun, by rw [hpos]; rfl⟩
  constructor
  · intro n m hn hpos hm
    have hle := ((hletGo n hn hpos).reaches hlooks hkeeps hm).2
    have hdemand := demand_le 0 n.threads
    rw [(ho.reaches hn).linked.length, List.length_map] at hdemand
    omega
  · intro n hn hpos
    refine ⟨retreat n, fun k m hrun => ?_⟩
    have hle := (hletGo n hn hpos).takes hlooks hkeeps hrun
    omega
  · intro n hn hpos
    exact (ho.reaches hn).progress (by rw [hpos]; nofun) (by rw [hpos]; nofun)
  · intro n hn hpos
    exact (ho.reaches hn).ended hpos

end LettingGo

end SourceSplice.Proofs
