import SourceSplice.Proofs.StageComposition
/-!
# What a chain gives when it is drawn from

A chain lets one item on at a time until one comes out. Over a list of items that gives, draw by
draw, the outcome of its stages: a chain never gives up before the end of the list, because it has
the patience to see every item dropped.
-/

namespace SourceSplice.Proofs

variable {α ω : Type} [Writer ω]

/-- A source that gives the items of a list and then perhaps breaks off. -/
structure Gives (source : Source α) (items : List α) (failure : Option String) : Prop where
  item : ∀ k, source.item k = items[k]?
  failure : source.failure = failure

/-- The items of a list, and then perhaps a text to break off with, from a source that may do
without looking whether it is still wanted. -/
def listSource (name : String) (items : List α) (failure : Option String) (looks : Bool) :
    Source α :=
  { Source.ofList name items failure with looks }

lemma gives_listSource (name : String) (items : List α) (failure : Option String) (looks : Bool) :
    Gives (listSource name items failure looks) items failure :=
  ⟨fun _ => rfl, rfl⟩

/-- What is left of a flow after a draw. -/
def Flow.tail : Flow α → Flow α
  | ended _ => ended none
  | item _ rest => rest

lemma Flow.draw_tail (f : Flow α) (k : Nat) : f.tail.draw k = f.draw (k + 1) := by
  cases f with
  | item x rest => rfl
  | ended broke => cases k <;> rfl

/-- Stages in their places, none of which was given an item; `ps` is what they make of one, the
first stage first. -/
structure Placed (ps : List (α → Passed α)) (links : List (Link α ω)) : Prop where
  passed : links.reverse.map (fun l => Proofs.passed l.stage) = ps
  held : ∀ l ∈ links, l.held = none

variable {source : Source α} {items : List α} {failure : Option String}
  {ps : List (α → Passed α)} {links : List (Link α ω)}

lemma placed_cons (h : Placed ps links) {l : Link α ω} (hl : l.held = none) :
    Placed (ps ++ [passed l.stage]) (l :: links) := by
  refine ⟨?_, ?_⟩
  · rw [List.reverse_cons, List.map_append, h.passed]
    rfl
  · rintro l' (_ | ⟨_, hl'⟩)
    · exact hl
    · exact h.held l' hl'

lemma Placed.of_cons {l : Link α ω} (h : Placed ps (l :: links)) : l.held = none ∧
    ∃ ps', ps = ps' ++ [Proofs.passed l.stage] ∧ Placed ps' links := by
  refine ⟨h.held l List.mem_cons_self, _, ?_, rfl,
    fun l' hl' => h.held l' (List.mem_cons_of_mem l hl')⟩
  rw [← h.passed, List.reverse_cons, List.map_append]
  rfl

lemma placed_finishAll (h : Placed ps links) : Placed ps (Chain.finishAll links) := by
  refine ⟨?_, ?_⟩
  · rw [← h.passed, Chain.finishAll, ← List.map_reverse, List.map_map]
    congr 1
    funext l
    exact passed_finish l.stage
  · intro l hl
    obtain ⟨l', hl', rfl⟩ := List.mem_map.mp hl
    exact h.held l' hl'

lemma pushLast_placed (h : Placed ps links) (s : Stage α ω) (x : α) :
    ∃ links', Chain.pushLast s x links = ((passed s x).progress, links') ∧
      Placed (ps ++ [passed s]) links' := by
  obtain ⟨r, s', hpush⟩ : ∃ r s', s.push x = (r, s') := ⟨_, _, rfl⟩
  obtain ⟨hr, hsame⟩ := passed_of_push hpush
  have hlast : ∀ {before : List (Link α ω)}, Placed ps before →
      Placed (ps ++ [passed s]) ({ stage := s' } :: before) := by
    intro before hb
    rw [← hsame]
    exact placed_cons (l := { stage := s' }) hb rfl
  rw [hr]
  cases r with
  | item y => exact ⟨_, by rw [Chain.pushLast, hpush], hlast h⟩
  | dropped => exact ⟨_, by rw [Chain.pushLast, hpush], hlast h⟩
  | broke text => exact ⟨_, by rw [Chain.pushLast, hpush]; rfl, hlast (placed_finishAll h)⟩

lemma advance_item {pulled : Nat} {x : α} (hx : source.item pulled = some x)
    (h : Placed ps links) :
    ∃ links', Chain.advance source pulled links =
      ((Passed.byAll ps x).progress, pulled + 1, links') ∧ Placed ps links' := by
  induction links generalizing ps with
  | nil =>
    obtain rfl : [] = ps := h.passed
    exact ⟨[], by rw [Chain.advance, Chain.draw, hx]; rfl, h⟩
  | cons l ls ih =>
    obtain ⟨hheld, ps, rfl, hls⟩ := h.of_cons
    obtain ⟨ls', hadvance, hls'⟩ := ih hls
    rw [Chain.advance, hheld, hadvance, Passed.byAll_concat]
    cases Passed.byAll ps x with
    | item y =>
      obtain ⟨links', hpush, hlinks⟩ := pushLast_placed hls' l.stage y
      refine ⟨links', ?_, hlinks⟩
      simp only [Passed.progress, hpush, Passed.andThen]
    | dropped => exact ⟨l :: ls', rfl, placed_cons hls' hheld⟩
    | broke text => exact ⟨l :: ls', rfl, placed_cons hls' hheld⟩

lemma advance_none {pulled : Nat} (hx : source.item pulled = none) (h : Placed ps links) :
    Chain.advance source pulled links = ((Chain.draw source pulled).1, pulled, links) := by
  have hdraw : Chain.draw source pulled = ((Chain.draw source pulled).1, pulled) ∧
      ∀ x, (Chain.draw source pulled).1 ≠ .item x := by
    rw [Chain.draw, hx]
    cases source.failure with
    | some text => exact ⟨rfl, nofun⟩
    | none => exact ⟨rfl, nofun⟩
  induction links generalizing ps with
  | nil => rw [Chain.advance, hdraw.1]
  | cons l ls ih =>
    obtain ⟨hheld, ps, rfl, hls⟩ := h.of_cons
    rw [Chain.advance, hheld, ih hls]
    cases hr : (Chain.draw source pulled).1 with
    | item x => exact absurd hr (hdraw.2 x)
    | _ => rfl

/-- Where a chain stands that still has a flow to give. -/
structure Stands (items : List α) (failure : Option String) (ps : List (α → Passed α)) (f : Flow α)
    (c : Chain α ω) : Prop where
  source : Gives c.source items failure
  horizon : c.source.horizon = items.length
  placed : Placed ps c.links
  rest : if c.ended then f = .ended none
    else f = (Flow.ofList failure (items.drop c.pulled)).through (Passed.byAll ps)

lemma Stands.nextWithin {f : Flow α} {c : Chain α ω} (h : Stands items failure ps f c) (steps : Nat)
    (hsteps : items.length - c.pulled < steps) :
    ∃ c', c.nextWithin steps = (f.draw 0, c') ∧ Stands items failure ps f.tail c' := by
  induction steps generalizing f c with
  | zero => exact absurd hsteps (Nat.not_lt_zero _)
  | succ steps ih =>
    obtain ⟨hg, hh, hp, hrest⟩ := h
    by_cases hended : c.ended = true
    · rw [if_pos hended] at hrest
      subst hrest
      refine ⟨{ c with exhausted := true }, ?_, hg, hh, hp, ?_⟩
      · rw [Chain.nextWithin, Chain.step, if_pos hended]
        simp only [Chain.finish, if_pos hended, Flow.draw, Option.map_none]
      · rw [if_pos hended]
        rfl
    rw [if_neg hended] at hrest
    have hitem := hg.item c.pulled
    cases hx : c.source.item c.pulled with
    | some x =>
      rw [hx] at hitem
      obtain ⟨hlt, hget⟩ := List.getElem?_eq_some_iff.mp hitem.symm
      rw [List.drop_eq_getElem_cons hlt, hget, Flow.ofList, Flow.through] at hrest
      obtain ⟨links', hadvance, hlinks⟩ := advance_item hx hp
      have hstep : c.step = ((Passed.byAll ps x).progress,
          { c with pulled := c.pulled + 1, links := links' }) := by
        rw [Chain.step, if_neg hended, hadvance]
      rw [Chain.nextWithin, hstep]
      cases hr : Passed.byAll ps x with
      | item y =>
        rw [hr] at hrest
        subst hrest
        exact ⟨_, rfl, hg, hh, hlinks, (if_neg hended).symm ▸ rfl⟩
      | dropped =>
        rw [hr] at hrest
        -- an item that is dropped takes one step of the patience and one item off the list
        refine ih ⟨hg, hh, hlinks, ?_⟩ ?_
        · rw [if_neg hended]
          exact hrest
        · show items.length - (c.pulled + 1) < steps
          omega
      | broke text =>
        rw [hr] at hrest
        subst hrest
        exact ⟨_, rfl, hg, hh, hlinks, rfl⟩
    | none =>
      rw [hx] at hitem
      have hge := List.getElem?_eq_none_iff.mp hitem.symm
      rw [List.drop_eq_nil_of_le hge, Flow.ofList, Flow.through] at hrest
      subst hrest
      have hstep : c.step = ((Chain.draw c.source c.pulled).1, c) := by
        rw [Chain.step, if_neg hended, advance_none hx hp]
      rw [Chain.nextWithin, hstep, Chain.draw, hx, hg.failure]
      cases failure with
      | some text => exact ⟨_, rfl, hg, hh, hp, rfl⟩
      | none =>
        refine ⟨_, rfl, ?_⟩
        rw [Chain.finish, if_neg hended]
        exact ⟨hg, hh, placed_finishAll hp, rfl⟩

lemma Stands.next {f : Flow α} {c : Chain α ω} (h : Stands items failure ps f c) :
    (Feed.next c).1 = f.draw 0 ∧ Stands items failure ps f.tail (Feed.next c).2 := by
  have hpatience : items.length - c.pulled < c.patience := by
    rw [Chain.patience, h.horizon]
    omega
  obtain ⟨c', hnext, hc'⟩ := h.nextWithin c.patience hpatience
  have hfeed : Feed.next c = (f.draw 0, c') := hnext
  rw [hfeed]
  exact ⟨rfl, hc'⟩

lemma Stands.draw {f : Flow α} {c : Chain α ω} (h : Stands items failure ps f c) (k : Nat) :
    (Feed.next (Feed.after c k)).1 = f.draw k := by
  induction k generalizing f c with
  | zero => exact h.next.1
  | succ k ih => rw [Feed.after, ih h.next.2, Flow.draw_tail]

/-- A source with stages put on it, the first of them first. -/
def chainOf (source : Source α) (stages : List (Stage α ω)) : Chain α ω :=
  stages.foldl (fun c s => c.put s none) { source }

lemma foldl_put (stages : List (Stage α ω)) {c : Chain α ω} (hended : c.ended = false)
    (hexhausted : c.exhausted = false) : stages.foldl (fun c s => c.put s none) c =
      { c with links := stages.reverse.map (fun s => { stage := s }) ++ c.links } := by
  induction stages generalizing c with
  | nil => rfl
  | cons s stages ih =>
    have hput : c.put s none = { c with links := { stage := s } :: c.links } := by
      simp only [Chain.put, hended, hexhausted, Bool.false_and, Bool.false_eq_true, if_false]
    rw [List.foldl_cons, hput, ih (by exact hended) (by exact hexhausted), List.reverse_cons,
      List.map_append, List.append_assoc]
    rfl

lemma stands_chainOf (name : String) (items : List α) (failure : Option String) (looks : Bool)
    (stages : List (Stage α ω)) :
    Stands items failure (stages.map passed) (outcome failure stages items)
      (chainOf (listSource name items failure looks) stages) := by
  rw [chainOf, foldl_put stages rfl rfl]
  refine ⟨gives_listSource name items failure looks, rfl, ⟨?_, ?_⟩, ?_⟩
  · rw [List.append_nil, ← List.map_reverse, List.reverse_reverse, List.map_map]
    rfl
  · intro l hl
    rw [List.append_nil] at hl
    obtain ⟨s, -, rfl⟩ := List.mem_map.mp hl
    rfl
  · exact outcome_eq_through failure stages items

end SourceSplice.Proofs
