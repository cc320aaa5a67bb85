import SourceSplice.Proofs.NetworkFlow
/-!
# What a network of stages delivers

However the threads of a chain take their steps, its consumer sees what comes of handing the items
one by one from callback to callback. What it has drawn and what is under way make up the outcome,
and over a source that ends there are only so many steps, so that every draw comes to its end.
-/

namespace SourceSplice.Proofs
open Generator Generator.Network

variable {α ω : Type} [Writer ω]

section Termination

/-- The number of items that a thread has in its hands. -/
def carried (t : Thread α ω) : Nat :=
  match t.position with
  | .holding _ | .offering _ => 1
  | .settling => if t.out.slot.isSome then 1 else 0
  | _ => 0

/-- The number of items that a worker can still draw from a source with so many. -/
def undrawn (size : Nat) : Worker α ω → Nat
  | .source _ k => size - k
  | .stage _ => 0

/-- The number of items that threads can still hand over at most. -/
def supply (size : Nat) : List (Thread α ω) → Nat
  | [] => 0
  | t :: ts => carried t + undrawn size t.worker + supply size ts

/-- A bound on the number of steps that threads can still take. Every item that comes to a thread
takes it less than five steps further away from its end. -/
def effort (size : Nat) : List (Thread α ω) → Nat
  | [] => 0
  | t :: ts =>
    5 * (undrawn size t.worker + supply size ts) + stepsLeft t.position + effort size ts

/-- A bound on the number of steps that a consumer can still take, if it gets no further item and
does not ask again after the end. -/
def consumerSteps (exhausted : Bool) : ConsumerAt → Nat
  | .idle => if exhausted then 2 else 5
  | .receiving => 4
  | .joining => 3
  | .awaiting => 1
  | .gone => 0

/-- A bound on the number of steps that a network can still take, but for draws after the end. -/
def networkEffort (size : Nat) (n : Network α ω) : Nat :=
  5 * supply size n.threads + effort size n.threads + consumerSteps n.exhausted n.consumer

variable {source : Source α} {size : Nat} {ps : List (α → Passed α)} {t t' : Thread α ω}
  {ts us : List (Thread α ω)} {n m : Network α ω}

lemma Alone.undrawn_add (hsize : ∀ s k x, t.worker = .source s k → s.item k = some x → k < size)
    (h : Alone t t') : undrawn size t'.worker + drawnBy t'.worker =
      undrawn size t.worker + drawnBy t.worker := by
  cases h with
  | drawn s k x _ hw hx =>
    have hlt := hsize s k x hw hx
    simp only [undrawn, drawnBy, hw]
    omega
  | handedOn _ _ _ _ _ hw => simp only [undrawn, drawnBy, hw]
  | dropped _ _ _ _ hw => simp only [undrawn, drawnBy, hw]
  | broke _ _ _ _ _ hw => simp only [undrawn, drawnBy, hw]
  | closedStage _ _ _ _ hw => simp only [undrawn, drawnBy, hw]
  | _ => rfl

lemma Alone.carried_le (h : Alone t t') :
    carried t' + drawnBy t.worker ≤ carried t + drawnBy t'.worker := by
  cases h with
  | goOn hpos => simp [carried, hpos]
  | turnBack hpos => simp [carried]
  | drawn s k x hpos hw => simp [carried, drawnBy, hpos, hw, Nat.add_comm]
  | dry _ _ hpos => simp [carried]
  | handedOn _ _ _ _ hpos hw => simp [carried, drawnBy, hpos, hw]
  | dropped _ _ _ hpos hw => simp [carried, drawnBy, hw]
  | broke _ _ _ _ hpos hw => simp [carried, drawnBy, hw]
  | put x hpos => simp [carried, hpos]
  | refused x hpos => simp [carried]
  | delivered hpos hslot => simp [carried]
  | retracted hpos => simp [carried]
  | closedSource _ _ _ hpos => simp [carried]
  | closedStage _ _ _ hpos hw => simp [carried, drawnBy, hw]

lemma Moves.effort_lt (hsize : ∀ k x, source.item k = some x → k < size) (h : Moves ts us)
    (hl : Linked source ps ts) :
    supply size us ≤ supply size ts ∧ effort size us < effort size ts := by
  induction h generalizing ps with
  | @alone t t' ts h =>
    have hdrawn : ∀ s k x, t.worker = .source s k → s.item k = some x → k < size := by
      intro s k x hw hx
      cases hl with
      | source hw' =>
        cases hw.symm.trans hw'
        exact hsize k x hx
      | stage hw' => cases hw.symm.trans hw'
    have hundrawn := h.undrawn_add hdrawn
    have hcarried := h.carried_le
    have hsteps := h.stepsLeft_lt
    simp only [supply, effort]
    omega
  | pulled t u s x ts hpos hw hx =>
    cases hl with
    | stage _ _ _ hl =>
      have hu := hl.sound.slot x hx
      simp only [supply, effort, carried, stepsLeft, hpos, hu, hx, Option.isSome_some,
        Option.isSome_none, if_true, Bool.false_eq_true, if_false]
      omega
  | sawEnd t u s ts hpos =>
    simp only [supply, effort, carried, stepsLeft, hpos]
    omega
  | joined t u broke ts hpos =>
    simp only [supply, effort, carried, stepsLeft, hpos]
    omega
  | released t u broke ts hpos =>
    have hu : carried { u with out := u.out.cancel } = carried u := rfl
    simp only [supply, effort, hu]
    simp only [carried, stepsLeft, hpos]
    omega
  | awaited t u broke broke' ts hpos =>
    simp only [supply, effort, carried, stepsLeft, hpos]
    omega
  | before t h ih =>
    cases hl with
    | source => cases h
    | stage _ _ _ hl =>
      obtain ⟨hsupply, heffort⟩ := ih hl
      simp only [supply, effort] at hsupply heffort ⊢
      omega

lemma InOrder.effort_lt (hsize : ∀ k x, source.item k = some x → k < size)
    (ho : InOrder source ps n) (hstep : Step n m) :
    networkEffort size m + n.seen.length < networkEffort size n + m.seen.length := by
  cases hstep with
  | thread hts =>
    obtain ⟨hsupply, heffort⟩ := (moves_of_step hts).effort_lt hsize ho.linked
    simp only [networkEffort]
    omega
  | beginNext hpos hex => simp [networkEffort, consumerSteps, hpos, hex]
  | nextAtEnd hpos hex => simp [networkEffort]
  | take t ts x out hpos hts _ htake =>
    obtain ⟨hx, rfl⟩ := take_ok htake
    have hl := ho.linked
    rw [hts] at hl
    have ht := hl.sound.slot x hx
    simp only [networkEffort, supply, effort, carried, consumerSteps, hts, hpos, ht, hx,
      ho.receiving hpos, Option.isSome_some, Option.isSome_none, if_true, Bool.false_eq_true,
      if_false, List.length_append, List.length_singleton]
    omega
  | meetEnd t ts e out hpos hts _ _ => simp [networkEffort, consumerSteps, hpos]
  | join t ts broke hpos hts ht =>
    simp only [networkEffort, consumerSteps, hpos, ho.exhausted hpos, if_true, List.length_append,
      List.length_singleton]
    omega
  | letGo t ts hpos hts =>
    have ht : carried { t with out := t.out.cancel } = carried t := rfl
    simp only [networkEffort, supply, effort, ht, consumerSteps, hts, hpos]
    split <;> omega
  | await t ts broke hpos hts ht => simp [networkEffort, consumerSteps, hpos]

/-- So many steps lead from one network to another. -/
inductive Takes : Nat → Network α ω → Network α ω → Prop where
  | none (n : Network α ω) : Takes 0 n n
  | step {k : Nat} {n m l : Network α ω} : Takes k n m → Step m l → Takes (k + 1) n l

lemma Takes.reaches {k : Nat} (h : Takes k n m) : Reaches n m := by
  induction h with
  | none n => exact .refl n
  | step _ hstep ih => exact .step ih hstep

lemma InOrder.effort_le (hsize : ∀ k x, source.item k = some x → k < size)
    (ho : InOrder source ps n) {k : Nat} (h : Takes k n m) :
    k + networkEffort size m + n.seen.length ≤ networkEffort size n + m.seen.length := by
  induction h with
  | none n => omega
  | step hrun hstep ih =>
    have hlt := (ho.reaches hrun.reaches).effort_lt hsize hstep
    have hle := ih ho
    omega

end Termination

section Delivery

/-- What a network owes to its consumer, if this is to come out of it. -/
structure Delivers (n : Network α ω) (f : Flow α) : Prop where
  /-- Every draw gives what stands at its place; behind the end, that is nothing. -/
  draws : ∀ m, Reaches n m → ∀ (k : Nat) d, m.seen[k]? = some d → d = f.draw k
  /-- A consumer that draws or lets go never waits in vain. -/
  progress : ∀ m, Reaches n m → m.consumer ≠ .idle → m.consumer ≠ .gone → ∃ l, Step m l
  /-- But for draws after the end, there are only so many steps, whichever are taken. -/
  bounded : ∃ bound, ∀ k m, Takes k n m → k ≤ bound + m.seen.length
  /-- So every draw is made, by a consumer that never stops drawing. -/
  complete : ∀ run : Nat → Network α ω, run 0 = n → (∀ i, Step (run i) (run (i + 1))) →
    ∀ k, ∃ i, (run i).seen[k]? = some (f.draw k)

variable {source : Source α} {items : List α} {failure : Option String} {ps : List (α → Passed α)}
  {n m : Network α ω} {f : Flow α}

lemma Delivering.reaches (hg : Gives source items failure) (ho : InOrder source ps n)
    (h : Delivering failure items f n) (hrun : Reaches n m) : Delivering failure items f m := by
  induction hrun with
  | refl => exact h
  | step hrun hstep ih => exact ih.step hg (ho.reaches hrun) hstep

lemma takes_run {run : Nat → Network α ω} (h : ∀ i, Step (run i) (run (i + 1))) (k : Nat) :
    Takes k (run 0) (run k) := by
  induction k with
  | zero => exact .none _
  | succ k ih => exact .step ih (h k)

lemma complete_of_bounded {bound : Nat}
    (hdraws : ∀ m, Reaches n m → ∀ (k : Nat) d, m.seen[k]? = some d → d = f.draw k)
    (hbound : ∀ k m, Takes k n m → k ≤ bound + m.seen.length) {run : Nat → Network α ω}
    (hzero : run 0 = n) (hrun : ∀ i, Step (run i) (run (i + 1))) (k : Nat) :
    ∃ i, (run i).seen[k]? = some (f.draw k) := by
  have htakes := takes_run hrun (bound + k + 1)
  rw [hzero] at htakes
  have hlong : k < (run (bound + k + 1)).seen.length := by
    have hle := hbound _ _ htakes
    omega
  have hseen := List.getElem?_eq_getElem hlong
  refine ⟨bound + k + 1, ?_⟩
  rw [hseen, hdraws _ htakes.reaches k _ hseen]

lemma delivers_start (name : String) (items : List α) (failure : Option String) (looks : Bool)
    (stages : List (Stage α ω)) :
    Delivers (start (listSource name items failure looks) stages.reverse)
      (outcome failure stages items) := by
  have hg := gives_listSource name items failure looks
  have ho := inOrder_start (listSource name items failure looks) stages.reverse
  have hstart : Delivering failure items (outcome failure stages items)
      (start (listSource name items failure looks) stages.reverse) := by
    have hreverse := delivering_start (listSource name items failure looks) items failure
      stages.reverse
    rwa [List.reverse_reverse] at hreverse
  have hsize : ∀ k x, (listSource name items failure looks).item k = some x → k < items.length :=
    fun k x hx => (List.getElem?_eq_some_iff.mp hx).1
  have hdraws := fun m hrun => (hstart.reaches hg ho (m := m) hrun).seen
  have hbound : ∀ k m, Takes k (start (listSource name items failure looks) stages.reverse) m →
      k ≤ networkEffort items.length (start (listSource name items failure looks) stages.reverse) +
        m.seen.length := by
    intro k m h
    have hle := ho.effort_le hsize h
    omega
  refine ⟨hdraws, fun m hrun => (ho.reaches hrun).progress, ⟨_, hbound⟩, ?_⟩
  intro run hzero hrun
  exact complete_of_bounded hdraws hbound hzero hrun

/-- However the threads of a chain and its consumer take turns, the consumer draws what comes of
handing the items of the source one by one from callback to callback, up to the first one on which a
callback breaks off; then the text of that callback, or that of the source, if one broke off; and
then nothing for ever. The same is drawn if there is only one thread. -/
theorem network_delivers_outcome (name : String) (items : List α) (failure : Option String)
    (looks : Bool) (stages : List (Stage α ω)) :
    Delivers (start (listSource name items failure looks) stages.reverse)
        (outcome failure stages items) ∧
      ∀ k, (Feed.next (Feed.after (chainOf (listSource name items failure looks) stages) k)).1 =
        (outcome failure stages items).draw k :=
  ⟨delivers_start name items failure looks stages,
    (stands_chainOf name items failure looks stages).draw⟩

/-- Adds one to each number, keeps what is even and writes it down. The first stage breaks off on
four, and so does the last one. -/
def evenSuccessors : List (Stage Nat Sink) :=
  [.transform fun n => if n = 4 then .error "no successor" else .ok (n + 1),
    .filter fun n => .ok (n % 2 == 0),
    .tap (fun n => if n = 4 then some "no note" else none)
      { project := fun n => some (toString n), writer := {} }]

/-- While the tap breaks off on what has become of the third number, the transform breaks off on the
fourth one, and the source behind it: what the consumer meets is the text of the tap. -/
theorem network_delivers_outcome_threeBreaks :
    Delivers (start (listSource "numbers" [1, 2, 3, 4] (some "no more") true)
        evenSuccessors.reverse) (.item 2 (.ended (some "no note"))) ∧
      (List.range 4).map (fun k => (Feed.next (Feed.after
        (chainOf (listSource "numbers" [1, 2, 3, 4] (some "no more") true) evenSuccessors) k)).1) =
        [some (.ok 2), some (.error "no note"), none, none] := by
  have houtcome : outcome (some "no more") evenSuccessors [1, 2, 3, 4] =
      .item 2 (.ended (some "no note")) := rfl
  obtain ⟨hnetwork, hchain⟩ :=
    network_delivers_outcome "numbers" [1, 2, 3, 4] (some "no more") true evenSuccessors
  rw [houtcome] at hnetwork hchain
  refine ⟨hnetwork, ?_⟩
  rw [List.map_congr_left fun k _ => hchain k]
  rfl

end Delivery

end SourceSplice.Proofs
