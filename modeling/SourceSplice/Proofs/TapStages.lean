import SourceSplice.Pipeline.Threads
import SourceSplice.Proofs.NetworkCompletion
import SourceSplice.Proofs.TapOutput
/-!
# Streams with taps

A tap hands on every item, whatever has become of its writer, so any number of them leave a stream
as it is. By the time the end is seen each tap was given all the items and then its end; so a writer
with room for so many bytes holds that much of the text of the items and no more. This holds of the
threads, however they take turns, and of a chain on one thread.
-/

namespace SourceSplice.Proofs
open Generator Generator.Network

variable {α ω : Type} [Writer ω]

section Threads

lemma handOn_taps (taps : List (Tap α ω)) :
    HandOn ((taps.map (.tap fun _ => none)).map passed) := by
  intro q hq
  obtain ⟨s, hs, rfl⟩ := List.mem_map.mp hq
  obtain ⟨t, -, rfl⟩ := List.mem_map.mp hs
  rfl

lemma endWith_tap (t : Tap α ω) (items : List α) :
    endWith (.tap (fun _ => none) t) (Flow.ofList none items) =
      .tap (fun _ => none) (tapAfter items t) := by
  induction items generalizing t with
  | nil => rfl
  | cons x items ih => exact ih (t.pass x)

lemma taps_of_seen_none {source : Source α} {items : List α} {m : Network α ω}
    (hg : Gives source items none) (taps : List (Tap α ω))
    (hrun : Reaches (start source (taps.map (.tap fun _ => none)).reverse) m)
    (hmem : none ∈ m.seen) : m.stages.filterMap Stage.tap? = taps.map (tapAfter items) := by
  have hps := handOn_taps taps
  have hd := (delivering_start_handOn source items hps.reverse).reaches hg
    (inOrder_start source _) hrun
  -- the end was seen, so there were as many draws as items at least
  have hall : ∀ k, (Flow.ofList none items).draw (m.seen.length + k) = none := by
    intro k
    obtain ⟨i, hlt, hi⟩ := List.mem_iff_getElem.mp hmem
    have hnone := hd.seen i none (List.getElem?_eq_some_iff.mpr ⟨hlt, hi⟩)
    rw [Flow.draw_ofList] at hnone ⊢
    have hle := List.getElem?_eq_none_iff.mp (Option.map_eq_none_iff.mp hnone.symm)
    rw [List.getElem?_eq_none (by omega), Option.map_none]
  have hended := ended_of_seen_none hg hps hrun hmem
  rw [stages_of_ended hg hps hrun hended hall, List.map_map]
  simp only [Function.comp_def, endWith_tap, List.filterMap_map, Stage.tap?]
  exact congrFun List.filterMap_eq_map _

end Threads

section Chain

/-- A tap in its place in a chain. -/
def tapLink (t : Tap α ω) : Link α ω :=
  { stage := .tap (fun _ => none) t }

lemma pushLast_tap (t : Tap α ω) (x : α) (before : List (Link α ω)) :
    Chain.pushLast (.tap (fun _ => none) t) x before =
      (.item x, tapLink (t.pass x) :: before) := rfl

lemma advance_taps {source : Source α} {pulled : Nat} {x : α} (hx : source.item pulled = some x)
    (taps : List (Tap α ω)) : Chain.advance source pulled (taps.map tapLink) =
      (.item x, pulled + 1, (taps.map (·.pass x)).map tapLink) := by
  induction taps with
  | nil => simp only [List.map_nil, Chain.advance, Chain.draw, hx]
  | cons t taps ih => simp only [List.map_cons, Chain.advance, tapLink, ih, pushLast_tap]

lemma next_taps {c : Chain α ω} {taps : List (Tap α ω)} {x : α} (hended : c.ended = false)
    (hlinks : c.links = taps.map tapLink) (hx : c.source.item c.pulled = some x) :
    (Feed.next c).2 =
      { c with pulled := c.pulled + 1, links := (taps.map (·.pass x)).map tapLink } := by
  have hstep : c.step = (.item x,
      { c with pulled := c.pulled + 1, links := (taps.map (·.pass x)).map tapLink }) := by
    rw [Chain.step, hended, hlinks, advance_taps hx]
    rfl
  show (c.nextWithin c.patience).2 = _
  rw [Chain.patience, Chain.nextWithin, hstep]

lemma next_taps_end {c : Chain α ω} {taps : List (Tap α ω)} (hended : c.ended = false)
    (hlinks : c.links = taps.map tapLink) (hx : c.source.item c.pulled = none)
    (hfailure : c.source.failure = none) :
    (Feed.next c).2 =
      { c with ended := true, exhausted := true, links := taps.map fun t => tapLink t.finish } := by
  have hplaced : Placed (c.links.reverse.map fun l => passed l.stage) c.links := by
    refine ⟨rfl, fun l hl => ?_⟩
    rw [hlinks] at hl
    obtain ⟨t, -, rfl⟩ := List.mem_map.mp hl
    rfl
  have hstep : c.step = (.ended, c) := by
    rw [Chain.step, if_neg (ne_true_of_eq_false hended), advance_none hx hplaced, Chain.draw, hx,
      hfailure]
  have hfinish : Chain.finishAll c.links = taps.map fun t => tapLink t.finish := by
    rw [hlinks, Chain.finishAll, List.map_map]
    rfl
  show (c.nextWithin c.patience).2 = _
  rw [Chain.patience, Chain.nextWithin, hstep]
  simp only [Chain.finish, hended, Bool.false_eq_true, if_false, hfinish]

lemma links_after_ended {c : Chain α ω} (hended : c.ended = true) (k : Nat) :
    (Feed.after c k).links = c.links := by
  induction k generalizing c with
  | zero => rfl
  | succ k ih =>
    have hnext : (Feed.next c).2 = { c with exhausted := true } := by
      show (c.nextWithin c.patience).2 = _
      rw [Chain.patience, Chain.nextWithin, Chain.step, if_pos hended]
      simp only [Chain.finish, if_pos hended]
    rw [Feed.after, hnext]
    exact ih hended

lemma links_after {c : Chain α ω} {taps : List (Tap α ω)} {items : List α}
    (hended : c.ended = false) (hlinks : c.links = taps.map tapLink)
    (hitem : ∀ i, c.source.item (c.pulled + i) = items[i]?) (hfailure : c.source.failure = none)
    {k : Nat} (hk : items.length < k) :
    (Feed.after c k).links = taps.map fun t => tapLink (tapAfter items t) := by
  induction items generalizing c taps k with
  | nil =>
    obtain ⟨k, rfl⟩ := Nat.exists_eq_succ_of_ne_zero (Nat.ne_of_gt hk)
    rw [Feed.after, next_taps_end hended hlinks (hitem 0) hfailure, links_after_ended rfl]
    rfl
  | cons x items ih =>
    obtain ⟨k, rfl⟩ := Nat.exists_eq_succ_of_ne_zero (Nat.ne_of_gt (Nat.zero_lt_of_lt hk))
    have hrest : ∀ i, c.source.item (c.pulled + 1 + i) = items[i]? := by
      intro i
      rw [Nat.add_assoc, Nat.add_comm 1 i, hitem (i + 1), List.getElem?_cons_succ]
    rw [Feed.after, next_taps hended hlinks (hitem 0)]
    refine (ih (c := { c with
      pulled := c.pulled + 1
      links := (taps.map (·.pass x)).map tapLink }) hended rfl hrest hfailure
        (Nat.lt_of_succ_lt_succ hk)).trans ?_
    rw [List.map_map]
    rfl

lemma taps_after (name : String) (items : List α) (looks : Bool) (taps : List (Tap α ω)) {k : Nat}
    (hk : items.length < k) :
    (Feed.after (chainOf (listSource name items none looks) (taps.map (.tap fun _ => none)))
      k).taps = taps.map (tapAfter items) := by
  have hlinks : (taps.map (.tap fun _ => none)).reverse.map (fun s => { stage := s }) ++ [] =
      taps.reverse.map (tapLink (ω := ω)) := by
    rw [List.append_nil, ← List.map_reverse, List.map_map]
    rfl
  have hitem : ∀ i, (listSource name items none looks).item (0 + i) = items[i]? := by
    intro i
    rw [Nat.zero_add]
    rfl
  rw [chainOf, foldl_put _ rfl rfl, Chain.taps, links_after rfl hlinks hitem rfl hk,
    ← List.map_reverse, List.reverse_reverse, List.filterMap_map]
  exact congrFun List.filterMap_eq_map _

end Chain

section Prefixes

/-- A tap that no item has passed. -/
def newTap (p : (α → Option String) × ω) : Tap α ω where
  project := p.1
  writer := p.2

/-- The stages of taps with these projections and writers; the projections never break off. -/
def tapStages (taps : List ((α → Option String) × ω)) : List (Stage α ω) :=
  (taps.map newTap).map (.tap fun _ => none)

/-- These are taps with such projections and writers at their end: each writer holds what it had
room for of the text of the items, and was flushed if that was all of it. -/
def AllFilled (taps : List ((α → Option String) × Sink)) (items : List α) :
    List (Tap α Sink) → Prop :=
  List.Forall₂ (fun p t => Filled p.2 (tapText p.1 items) t) taps

lemma allFilled (taps : List ((α → Option String) × Sink)) (items : List α) :
    AllFilled taps items ((taps.map newTap).map (tapAfter items)) := by
  rw [AllFilled, List.forall₂_map_right_iff, List.forall₂_map_right_iff, List.forall₂_same]
  exact fun p _ => filled_tapAfter (t := newTap p) rfl items

/-- What a stream with taps on it gives, and what the taps write beside it. -/
structure TapsBeside (name : String) (items : List α) (looks : Bool)
    (taps : List ((α → Option String) × Sink)) : Prop where
  /-- However the threads take turns, the items come out in order, and then nothing. -/
  delivers : Delivers (start (listSource name items none looks) (tapStages taps).reverse)
    (Flow.ofList none items)
  /-- By the time the end was seen, every writer holds its part. -/
  filled : ∀ m, Reaches (start (listSource name items none looks) (tapStages taps).reverse) m →
    none ∈ m.seen → AllFilled taps items (m.stages.filterMap Stage.tap?)
  /-- On one thread the same items come out. -/
  draws : ∀ k, (Feed.next (Feed.after
    (chainOf (listSource name items none looks) (tapStages taps)) k)).1 = items[k]?.map .ok
  /-- On one thread, every writer holds its part after the draw that met the end. -/
  filledAlone : ∀ k, items.length < k → AllFilled taps items
    (Feed.after (chainOf (listSource name items none looks) (tapStages taps)) k).taps

/-- Taps leave a stream as it is, and each of them writes as much of its text as its writer has room
for, whatever becomes of the others, and flushes its writer if that is all of it. -/
theorem taps_write_what_fits (name : String) (items : List α) (looks : Bool)
    (taps : List ((α → Option String) × Sink)) : TapsBeside name items looks taps := by
  have hps : HandOn ((tapStages taps).map passed) := handOn_taps (taps.map newTap)
  refine ⟨?_, fun m hrun hmem => ?_, fun k => ?_, fun k hk => ?_⟩
  · rw [← hps.outcome_eq]
    exact delivers_start name items none looks (tapStages taps)
  · rw [taps_of_seen_none (gives_listSource name items none looks) (taps.map newTap) hrun hmem]
    exact allFilled taps items
  · rw [(stands_chainOf name items none looks (tapStages taps)).draw, hps.outcome_eq,
      Flow.draw_ofList]
  · rw [tapStages, taps_after name items looks (taps.map newTap) hk]
    exact allFilled taps items

end Prefixes

end SourceSplice.Proofs
