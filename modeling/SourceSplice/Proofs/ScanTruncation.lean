import SourceSplice.Proofs.ScanExpansion
/-!
# Scans that are cut short

Two scans of one root that differ in their options run in lockstep until the stricter one gives up.
`CutShort` says so of what they give: the items are the same, but for an error of the stricter scan
in the place of everything that the other one still gives.
-/

namespace SourceSplice.Proofs
open Expansion

/-- The first error among items is of this kind. -/
inductive FailsWith (kind : ScanError → Prop) : List ScanItem → Prop where
  | here (e : ScanError) (xs : List ScanItem) : kind e → FailsWith kind (.error e :: xs)
  | cons (e : Event) {xs : List ScanItem} : FailsWith kind xs → FailsWith kind (.ok e :: xs)

inductive IsCycle : ScanError → Prop where
  | intro (path : String) (site : Site) : IsCycle (.cycle path site)

inductive IsTooDeep (limit : Nat) : ScanError → Prop where
  | intro (path : String) (site : Site) : IsTooDeep limit (.tooDeep path site limit)

/-- The items of the first list are those of the second one, up to the end or up to an error of some
kind. -/
inductive CutShort (kind : ScanError → Prop) : List ScanItem → List ScanItem → Prop where
  | same (xs : List ScanItem) : CutShort kind xs xs
  | here (e : ScanError) (ys : List ScanItem) : kind e → CutShort kind [.error e] ys
  | cons (e : Event) {xs ys : List ScanItem} :
    CutShort kind xs ys → CutShort kind (.ok e :: xs) (.ok e :: ys)

section FailsWith

variable {kind : ScanError → Prop} {xs ys : List ScanItem}

lemma FailsWith.of_error {e : ScanError} (h : FailsWith kind (.error e :: xs)) : kind e := by
  cases h
  assumption

lemma FailsWith.of_ok {e : Event} (h : FailsWith kind (.ok e :: xs)) : FailsWith kind xs := by
  cases h
  assumption

lemma FailsWith.eq_concat (h : FailsWith kind xs) (hend : EndsAtError xs) :
    ∃ (events : List Event) (e : ScanError), kind e ∧ xs = events.map .ok ++ [.error e] := by
  induction h with
  | here e xs he =>
    obtain rfl := hend [] e xs rfl
    exact ⟨[], e, he, rfl⟩
  | cons e _ ih =>
    obtain ⟨events, e', he', rfl⟩ := ih hend.of_cons
    exact ⟨e :: events, e', he', rfl⟩

lemma failsWith_concat (events : List Event) {e : ScanError} (he : kind e) :
    FailsWith kind (events.map .ok ++ [.error e]) := by
  induction events with
  | nil => exact .here e [] he
  | cons e' events ih => exact .cons e' ih

lemma not_failsWith_map_ok (events : List Event) : ¬FailsWith kind (events.map .ok) := by
  induction events with
  | nil => exact nofun
  | cons e events ih => exact fun h => ih h.of_ok

lemma FailsWith.followedBy_left (h : FailsWith kind xs) (ys : List ScanItem) :
    FailsWith kind (followedBy xs ys) := by
  induction h with
  | here e xs he => exact .here e _ he
  | cons e _ ih => exact .cons e ih

lemma FailsWith.followedBy_right (events : List Event) (h : FailsWith kind ys) :
    FailsWith kind (followedBy (events.map .ok) ys) := by
  induction events with
  | nil => exact h
  | cons e events ih => exact .cons e ih

lemma failsWith_of_followedBy (h : FailsWith kind (followedBy xs ys)) :
    FailsWith kind xs ∨ ∃ events : List Event, xs = events.map .ok ∧ FailsWith kind ys := by
  induction xs with
  | nil => exact .inr ⟨[], rfl, h⟩
  | cons x xs ih =>
    cases x with
    | error e =>
      cases h with
      | here _ _ he => exact .inl (.here e xs he)
    | ok e =>
      cases h with
      | cons _ h =>
        rcases ih h with hx | ⟨events, rfl, hy⟩
        · exact .inl (.cons e hx)
        · exact .inr ⟨e :: events, rfl, hy⟩

lemma isPrefix_of_map_ok {events all : List Event} {e : ScanError}
    (h : events.map (.ok : Event → ScanItem) <+: all.map .ok ++ [.error e]) : events <+: all := by
  rcases List.prefix_concat_iff.mp h with hsame | hprefix
  · exact absurd hsame (map_ok_ne_concat_error events all e)
  · exact (List.prefix_map_iff_of_injective fun _ _ => Except.ok.inj).mp hprefix

end FailsWith

section CutShort

variable {kind : ScanError → Prop} {xs xs' ys ys' : List ScanItem}

lemma CutShort.followedBy (hx : CutShort kind xs xs') (hy : CutShort kind ys ys') :
    CutShort kind (followedBy xs ys) (followedBy xs' ys') := by
  induction hx with
  | same xs =>
    induction xs with
    | nil => exact hy
    | cons x xs ih =>
      cases x with
      | ok e => exact .cons e ih
      | error e => exact .same _
  | here e xs' he => exact .here e _ he
  | cons e _ ih => exact .cons e ih

lemma CutShort.eq_or_failsWith (h : CutShort kind xs ys) : xs = ys ∨ FailsWith kind xs := by
  induction h with
  | same xs => exact .inl rfl
  | here e ys he => exact .inr (.here e [] he)
  | cons e _ ih => exact ih.imp (congrArg _) (.cons e)

lemma CutShort.eq (h : CutShort kind xs ys) (hne : ¬FailsWith kind xs) : xs = ys :=
  h.eq_or_failsWith.resolve_right hne

lemma CutShort.isPrefix (h : CutShort kind xs ys) {events : List Event} {e : ScanError}
    (hxs : xs = events.map .ok ++ [.error e]) : events.map .ok <+: ys := by
  induction h generalizing events with
  | same xs => exact ⟨_, hxs.symm⟩
  | here e' ys _ =>
    cases events with
    | nil => exact List.nil_prefix
    | cons e events => cases hxs
  | cons e' _ ih =>
    cases events with
    | nil => exact List.nil_prefix
    | cons e events =>
      obtain ⟨hhead, htail⟩ := List.cons.inj hxs
      exact List.cons_prefix_cons.mpr ⟨hhead.symm, ih htail⟩

end CutShort

section Options

variable {kind : ScanError → Prop}

/-- Options that make the scan of a file stricter than others do. It stands under the files `above`
in the one scan and under `above'` in the other one, which may skip the check for cycles and may go
so many levels deeper. -/
structure Stricter (kind : ScanError → Prop) (strict lax : ScanOptions)
    (above above' : List String) : Prop where
  checked : lax.detectCycles = true → strict.detectCycles = true ∧ above' = above
  cycle : strict.detectCycles = true → lax.detectCycles = false →
    ∀ path site, kind (.cycle path site)
  levels : strict.maxIncludeDepth + above'.length ≤ lax.maxIncludeDepth + above.length
  tooDeep : strict.maxIncludeDepth = lax.maxIncludeDepth ∧ above'.length = above.length ∨
    ∀ path site, kind (.tooDeep path site strict.maxIncludeDepth)

namespace Stricter

variable {strict lax : ScanOptions} {above above' : List String}

lemma below (h : Stricter kind strict lax above above') (path : String) :
    Stricter kind strict lax (path :: above) (path :: above') where
  checked hc := (h.checked hc).imp_right (congrArg (path :: ·))
  cycle := h.cycle
  levels := by
    have hl := h.levels
    simp only [List.length_cons]
    omega
  tooDeep := h.tooDeep.imp_left (And.imp_right (congrArg (· + 1)))

lemma not_cycle (h : Stricter kind strict lax above above') {target : String}
    (hc : ¬(strict.detectCycles = true ∧ target ∈ above)) :
    ¬(lax.detectCycles = true ∧ target ∈ above') := by
  rintro ⟨hlax, hmem⟩
  obtain ⟨hstrict, rfl⟩ := h.checked hlax
  exact hc ⟨hstrict, hmem⟩

lemma not_tooDeep (h : Stricter kind strict lax above above')
    (hd : ¬strict.maxIncludeDepth < above.length) : ¬lax.maxIncludeDepth < above'.length := by
  have hl := h.levels
  omega

end Stricter

lemma rest_cutShort (files : FileSystem) {strict lax : ScanOptions} (path : String)
    (above above' : List String) (n : Nat) (pending : List (Except Fault String))
    (h : Stricter kind strict lax above above') :
    CutShort kind (rest files strict path above n pending) (rest files lax path above' n pending) := by
  fun_induction rest files strict path above n pending generalizing above' with
  | case1 path above n =>
    rw [rest]
    exact .same _
  | case2 path above n fault pending =>
    rw [rest]
    exact .same _
  | case3 path above n text pending hparse ih =>
    rw [rest_plain hparse]
    exact .cons _ (ih above' h)
  | case4 path above n text pending site cause hparse =>
    rw [rest, hparse]
    exact .same _
  | case5 path above n text pending site target hparse hcycle =>
    cases hlax : lax.detectCycles with
    | true =>
      obtain ⟨-, rfl⟩ := h.checked hlax
      rw [rest, hparse]
      simp only [if_pos (And.intro hlax hcycle.2)]
      exact .same _
    | false => exact .here _ _ (h.cycle hcycle.1 hlax target site)
  | case6 path above n text pending site target hparse hcycle hdeep =>
    rcases h.tooDeep with ⟨hlimit, hlength⟩ | hkind
    · rw [hlimit, List.length_cons, ← hlength] at hdeep
      rw [rest, hparse]
      simp only [if_neg ((h.below path).not_cycle hcycle), List.length_cons, dif_pos hdeep, hlimit]
      exact .same _
    · exact .here _ _ (hkind target site)
  | case7 path above n text pending site target hparse hcycle hdeep fault hopen =>
    rw [rest, hparse]
    simp only [if_neg ((h.below path).not_cycle hcycle), dif_neg ((h.below path).not_tooDeep hdeep),
      hopen]
    exact .same _
  | case8 path above n text pending target hparse hcycle hdeep lines hopen ihInner ihAfter =>
    rw [rest_included hparse ((h.below path).not_cycle hcycle) ((h.below path).not_tooDeep hdeep)
      hopen]
    exact .cons _ ((ihInner _ (h.below path)).followedBy (.cons _ (ihAfter _ h)))

end Options

end SourceSplice.Proofs
