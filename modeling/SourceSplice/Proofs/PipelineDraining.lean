import SourceSplice.Pipeline.Threads
import SourceSplice.Proofs.ScanExpansion
import SourceSplice.Proofs.TapStages
/-!
# Draining a pipeline

A pipeline is drained up to the first error, and then its client lets go of threads that still own
writers. By then the error, which is the last item of a scan, has passed every tap; so it makes no
difference to what the taps write that they are let go, nor how the threads took turns. What comes
of draining is what preprocessing folds from the same scan.
-/

namespace SourceSplice.Proofs
open Generator Generator.Network Pipeline

section Draws

variable {items : List ScanItem} {seen : List (Option (Except String ScanItem))}

/-- These are the first draws from a list of items. -/
def DrawnFrom (items : List ScanItem) (seen : List (Option (Except String ScanItem))) : Prop :=
  ∀ (k : Nat) d, seen[k]? = some d → d = (Flow.ofList none items).draw k

lemma DrawnFrom.of_cons {e : Event} {d : Option (Except String ScanItem)}
    (h : DrawnFrom (.ok e :: items) (d :: seen)) :
    d = some (.ok (.ok e)) ∧ DrawnFrom items seen :=
  ⟨h 0 d rfl, fun k d' hk => h (k + 1) d' hk⟩

lemma drained_eq (h : DrawnFrom items seen) {r : Except RunError Nat}
    (hr : drained seen = some r) : r = Pipeline.outcome items := by
  induction seen generalizing items r with
  | nil => cases hr
  | cons d seen ih =>
    rcases items with _ | ⟨e | e, items⟩
    · obtain rfl : d = none := h 0 d rfl
      exact (Option.some.inj hr).symm
    · obtain rfl : d = some (.ok (.error e)) := h 0 d rfl
      exact (Option.some.inj hr).symm
    · obtain ⟨rfl, hseen⟩ := h.of_cons
      obtain ⟨r', hr', rfl⟩ := Option.map_eq_some_iff.mp hr
      rw [ih hseen hr', Pipeline.outcome, Pipeline.outcome, Feed.tryCount]
      cases Feed.tryCount items <;> rfl

lemma length_le_of_drained_eq_none (h : DrawnFrom items seen) (hr : drained seen = none) :
    seen.length ≤ items.length := by
  induction seen generalizing items with
  | nil => exact Nat.zero_le _
  | cons d seen ih =>
    rcases items with _ | ⟨e | e, items⟩
    · obtain rfl : d = none := h 0 d rfl
      cases hr
    · obtain rfl : d = some (.ok (.error e)) := h 0 d rfl
      cases hr
    · obtain ⟨rfl, hseen⟩ := h.of_cons
      exact Nat.succ_le_succ (ih hseen (Option.map_eq_none_iff.mp hr))

lemma length_le_of_drained (hend : EndsAtError items) (h : DrawnFrom items seen)
    (hr : drained seen ≠ none) : items.length ≤ seen.length := by
  induction seen generalizing items with
  | nil => exact absurd rfl hr
  | cons d seen ih =>
    rcases items with _ | ⟨e | e, items⟩
    · exact Nat.zero_le _
    · -- an error is the last item
      obtain rfl := hend [] e items rfl
      exact Nat.succ_le_succ (Nat.zero_le _)
    · obtain ⟨rfl, hseen⟩ := h.of_cons
      refine Nat.succ_le_succ (ih hend.of_cons hseen fun hnone => hr ?_)
      exact Option.map_eq_none_iff.mpr hnone

lemma DrawnFrom.drained_concat {d : Option (Except String ScanItem)} {broke : Option String}
    (h : DrawnFrom items (seen ++ [d])) (hd : d = broke.map .error) :
    drained (seen ++ [d]) ≠ none := by
  intro hnone
  have hlt : seen.length < items.length := by
    have hle := length_le_of_drained_eq_none h hnone
    rwa [List.length_append] at hle
  have hdraw := h seen.length d List.getElem?_concat_length
  rw [Flow.draw_ofList, List.getElem?_eq_getElem hlt, hd] at hdraw
  cases broke <;> cases hdraw

end Draws

section Draining

variable {ω : Type} [Writer ω] {source : Source ScanItem} {items : List ScanItem}
  {ps : List (ScanItem → Passed ScanItem)} {n m : Network ScanItem ω} {k : Nat}

/-- Where a consumer can be that drains a network. -/
structure Draining (items : List ScanItem) (n : Network ScanItem ω) : Prop where
  drawing : drained n.seen ≠ none → n.consumer ≠ .receiving ∧ n.consumer ≠ .joining
  letGo : hasLetGo n.consumer = true → drained n.seen ≠ none
  exhausted : n.exhausted = true → n.consumer ≠ .joining → drained n.seen ≠ none
  length : n.seen.length ≤ items.length + 1

lemma drainStep_step (h : DrainStep n m) : Step n m := by
  cases h <;> assumption

lemma takes_of_drains (h : Drains k n m) : Takes k n m := by
  induction h with
  | refl n => exact .none n
  | step _ hstep ih => exact .step ih (drainStep_step hstep)

lemma Draining.step (h : Draining items n) (hn : DrawnFrom items n.seen)
    (hm : DrawnFrom items m.seen) (hstep : DrainStep n m) : Draining items m := by
  cases hstep with
  | drawing hd hstep hne =>
    have hnot {q : Prop} (hr : drained n.seen ≠ none) : q := absurd hd hr
    have hlength : n.seen.length + 1 ≤ items.length + 1 :=
      Nat.succ_le_succ (length_le_of_drained_eq_none hn hd)
    cases hstep with
    | thread => exact ⟨h.drawing, h.letGo, h.exhausted, h.length⟩
    | beginNext hpos hex =>
      exact ⟨hnot, nofun, fun he => (by cases hex.symm.trans he), h.length⟩
    | nextAtEnd hpos hex => exact hnot (h.exhausted hex (by rw [hpos]; nofun))
    | take t ts x out hpos =>
      refine ⟨fun _ => ⟨nofun, nofun⟩, nofun, fun he _ => ?_, ?_⟩
      · exact hnot (h.exhausted he (by rw [hpos]; nofun))
      · rwa [List.length_append]
    | meetEnd => exact ⟨hnot, nofun, fun _ hne => absurd rfl hne, h.length⟩
    | join t ts broke =>
      refine ⟨fun _ => ⟨nofun, nofun⟩, nofun, fun _ _ => hm.drained_concat rfl, ?_⟩
      rwa [List.length_append]
    | letGo => exact absurd rfl hne
    | await t ts broke hpos => exact hnot (h.letGo (by rw [hpos]; rfl))
  | leaving hd hstep hne hsame =>
    obtain ⟨hreceiving, hjoining⟩ := h.drawing hd
    cases hstep with
    | thread => exact ⟨h.drawing, h.letGo, h.exhausted, h.length⟩
    | beginNext => exact absurd rfl hne
    | nextAtEnd => exact absurd hsame (by simp)
    | take t ts x out hpos => exact absurd hpos hreceiving
    | meetEnd t ts e out hpos => exact absurd hpos hreceiving
    | join t ts broke hpos => exact absurd hpos hjoining
    | letGo => exact ⟨fun _ => ⟨nofun, nofun⟩, fun _ => hd, fun _ _ => hd, h.length⟩
    | await => exact ⟨fun _ => ⟨nofun, nofun⟩, fun _ => hd, fun _ _ => hd, h.length⟩

lemma Draining.drains (h : Draining items n)
    (hseen : ∀ m, Reaches n m → DrawnFrom items m.seen) (hrun : Drains k n m) :
    Draining items m := by
  induction hrun with
  | refl => exact h
  | step hrun hstep ih =>
    have hreaches := (takes_of_drains hrun).reaches
    exact (ih h hseen).step (hseen _ hreaches)
      (hseen _ (.step hreaches (drainStep_step hstep))) hstep

lemma Draining.progress (h : Draining items n) (ho : InOrder source ps n)
    (hgone : n.consumer ≠ .gone) : ∃ m, DrainStep n m := by
  have hdrawing (hpos : n.consumer = .receiving ∨ n.consumer = .joining) :
      ∃ m, DrainStep n m := by
    have hd : drained n.seen = none := by
      by_contra hd
      obtain ⟨hreceiving, hjoining⟩ := h.drawing hd
      exact hpos.elim hreceiving hjoining
    obtain ⟨m, hstep⟩ := ho.progress (by rintro hidle; simp [hidle] at hpos) hgone
    refine ⟨m, .drawing hd hstep fun hm => ?_⟩
    cases hstep <;> simp_all
  cases hpos : n.consumer with
  | idle =>
    by_cases hd : drained n.seen = none
    · have hex : n.exhausted = false := by
        by_contra hex
        exact h.exhausted (Bool.not_eq_false _ ▸ hex) (by rw [hpos]; nofun) hd
      exact ⟨_, .drawing hd (.beginNext n hpos hex) nofun⟩
    · obtain ⟨t, ts, hts⟩ := ho.linked.exists_cons
      exact ⟨_, .leaving hd (.letGo n t ts hpos hts) nofun rfl⟩
  | receiving => exact hdrawing (.inl hpos)
  | joining => exact hdrawing (.inr hpos)
  | awaiting =>
    have hd := h.letGo (by rw [hpos]; rfl)
    obtain ⟨m, hstep⟩ := ho.progress (by rw [hpos]; nofun) hgone
    refine ⟨m, .leaving hd hstep ?_ ?_⟩
    · cases hstep <;> simp_all
    · cases hstep <;> simp_all
  | gone => exact absurd hpos hgone

end Draining

section Pipeline

variable {ω : Type} [Writer ω]

lemma tryDrain_result (p : Pipeline ω) : p.tryDrain.1 = Pipeline.outcome p.scanner.items := by
  obtain ⟨⟨source, events⟩, scanner⟩ := p
  cases source <;> cases events <;>
    simp only [Pipeline.tryDrain, Pipeline.run, Pipeline.passAll, passAll_items] <;> rfl

lemma tryDrain_source_events (p : Pipeline ω) :
    p.tryDrain.2.source = p.source.map (tapAfter p.scanner.items) ∧
      p.tryDrain.2.events = p.events.map (tapAfter p.scanner.items) := by
  obtain ⟨⟨source, events⟩, scanner⟩ := p
  cases source <;> cases events <;>
    simp only [Pipeline.tryDrain, Pipeline.run, Pipeline.passAll, passAll_items] <;>
    exact ⟨rfl, rfl⟩

lemma tryDrain_taps (p : Pipeline ω) :
    p.tryDrain.2.taps = p.taps.map (tapAfter p.scanner.items) := by
  obtain ⟨hsource, hevents⟩ := tryDrain_source_events p
  have hmap : ∀ t : Option (Tap ScanItem ω),
      (t.map (tapAfter p.scanner.items)).toList = t.toList.map (tapAfter p.scanner.items) := by
    rintro (_ | t) <;> rfl
  rw [Pipeline.taps, hsource, hevents, hmap, hmap, Pipeline.taps, List.map_append]

/-- Draining the threads of a pipeline comes to what draining the pipeline is said to come to. -/
structure ThreadsAgree (p : Pipeline ω) (looks : Bool) : Prop where
  /-- Once the client is gone, it has the result, all threads have ended, and each tap has written
  and flushed what it should. -/
  result : ∀ k m, Drains k (p.threads looks) m → m.consumer = .gone →
    drained m.seen = some p.tryDrain.1 ∧ m.Ended ∧ tapsOf m = p.tryDrain.2.taps
  /-- The client never waits in vain. -/
  progress : ∀ k m, Drains k (p.threads looks) m → m.consumer ≠ .gone → ∃ l, DrainStep m l
  /-- There are only so many steps, whichever are taken. -/
  bounded : ∃ bound, ∀ k m, Drains k (p.threads looks) m → k ≤ bound

lemma threadsAgree (p : Pipeline ω) (hend : EndsAtError p.scanner.items) (looks : Bool) :
    ThreadsAgree p looks := by
  have hg : Gives (p.itemSource looks) p.scanner.items none :=
    gives_listSource "scanner" p.scanner.items none looks
  have ho := inOrder_start (p.itemSource looks) p.stages.reverse
  have hd := delivering_start_handOn (p.itemSource looks) p.scanner.items (handOn_taps p.taps).reverse
  have hseen : ∀ m, Reaches (p.threads looks) m → DrawnFrom p.scanner.items m.seen :=
    fun m hrun => (hd.reaches hg ho hrun).seen
  have hdraining : ∀ k m, Drains k (p.threads looks) m → Draining p.scanner.items m := by
    intro k m hrun
    have hstart : Draining p.scanner.items (p.threads looks) :=
      ⟨fun hr => absurd rfl hr, nofun, nofun, Nat.zero_le _⟩
    exact hstart.drains hseen hrun
  refine ⟨fun k m hrun hpos => ?_, fun k m hrun hgone => ?_, ?_⟩
  · have hreaches := (takes_of_drains hrun).reaches
    have hover := (hdraining k m hrun).letGo (by rw [hpos]; rfl)
    obtain ⟨r, hr⟩ := Option.ne_none_iff_exists'.mp hover
    -- draining a scan is over only when every item was drawn, so nothing was left to come
    have hlength := length_le_of_drained hend (hseen m hreaches) hover
    refine ⟨?_, (ho.reaches hreaches).ended hpos, ?_⟩
    · rw [hr, drained_eq (hseen m hreaches) hr, tryDrain_result]
    · have hall : ∀ k, (Flow.ofList none p.scanner.items).draw (m.seen.length + k) = none := by
        intro k
        rw [Flow.draw_ofList, List.getElem?_eq_none (Nat.le_add_right_of_le hlength)]
        rfl
      have hended := (ho.reaches hreaches).ended hpos
      rw [tapsOf, stages_of_ended hg (handOn_taps p.taps) hreaches hended hall, tryDrain_taps,
        List.map_map]
      simp only [Function.comp_def, endWith_tap, List.filterMap_map, Stage.tap?]
      exact congrFun List.filterMap_eq_map _
  · exact (hdraining k m hrun).progress (ho.reaches (takes_of_drains hrun).reaches) hgone
  · have hsize : ∀ k x, (p.itemSource looks).item k = some x → k < p.scanner.items.length :=
      fun k x hx => (List.getElem?_eq_some_iff.mp hx).1
    refine ⟨networkEffort p.scanner.items.length (p.threads looks) + (p.scanner.items.length + 1),
      fun k m hrun => ?_⟩
    have hle := ho.effort_le hsize (takes_of_drains hrun)
    have hlength := (hdraining k m hrun).length
    have hstart : (p.threads looks).seen.length = 0 := rfl
    unfold Pipeline.threads at hstart ⊢
    omega

end Pipeline

end SourceSplice.Proofs
