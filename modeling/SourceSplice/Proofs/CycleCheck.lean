import SourceSplice.Proofs.ScanTruncation
/-!
# Scanning without the check for cycles

The check for cycles only lets a scan fail earlier. A scan that it does not stop gives the same
without it. One that it stops goes on into a file that it is in the middle of, and all that was read
on the way there is read again, further down: if that came to an end, it would hold a copy of itself.
So it is the limit on the depth that ends the scan.
-/

namespace SourceSplice.Proofs
open Expansion

variable {files : FileSystem} {limit : Nat} {xs ys zs : List ScanItem}

/-- The rest of a file in a scan with the check for cycles. -/
abbrev restChecked (files : FileSystem) (limit : Nat) :=
  rest files { maxIncludeDepth := limit, detectCycles := true }

/-- The rest of a file in a scan without it. -/
abbrev restUnchecked (files : FileSystem) (limit : Nat) :=
  rest files { maxIncludeDepth := limit, detectCycles := false }

lemma restChecked_cutShort (path : String) (above : List String) (n : Nat)
    (pending : List (Except Fault String)) :
    CutShort IsCycle (restChecked files limit path above n pending)
      (restUnchecked files limit path above n pending) :=
  rest_cutShort files path above above n pending
    ⟨nofun, fun _ _ => .intro, le_rfl, .inl ⟨rfl, rfl⟩⟩

lemma restUnchecked_included {path : String} {above : List String} {n : Nat} {text target : String}
    {pending lines : List (Except Fault String)}
    (hparse : Directive.parse text = .ok (.inclusion target))
    (hdeep : ¬limit < (path :: above).length) (hlines : files.outcomes target = .ok lines) :
    restUnchecked files limit path above n (.ok text :: pending) =
      .ok (.fileChange target)
        :: followedBy (restUnchecked files limit target (path :: above) 0 lines)
          (.ok (.fileChange path) :: restUnchecked files limit path above (n + 1) pending) :=
  rest_included hparse (fun hc => by cases hc.1) hdeep hlines

lemma restUnchecked_deeper (path : String) {above deeper : List String}
    (h : above.length ≤ deeper.length) (n : Nat) (pending : List (Except Fault String)) :
    CutShort (IsTooDeep limit) (restUnchecked files limit path deeper n pending)
      (restUnchecked files limit path above n pending) :=
  rest_cutShort files path deeper above n pending
    ⟨nofun, nofun, Nat.add_le_add_left h limit, .inr .intro⟩

/-- Some items come in the course of others, which are more and which fail as they do. -/
structure Within (limit : Nat) (ys xs : List ScanItem) : Prop where
  length_lt : ys.length < xs.length
  tooDeep : FailsWith (IsTooDeep limit) ys → FailsWith (IsTooDeep limit) xs

lemma Within.cons (e : Event) (h : Within limit ys xs) : Within limit ys (.ok e :: xs) :=
  ⟨h.length_lt.trans (Nat.lt_succ_self _), fun hy => .cons e (h.tooDeep hy)⟩

lemma length_le_followedBy (hend : EndsAtError ys) (zs : List ScanItem) :
    ys.length ≤ (followedBy ys zs).length := by
  induction ys with
  | nil => exact Nat.zero_le _
  | cons y ys ih =>
    cases y with
    | ok e => exact Nat.succ_le_succ (ih hend.of_cons)
    | error e =>
      obtain rfl := hend [] e ys rfl
      exact le_rfl

lemma within_cons_followedBy (e : Event) (hend : EndsAtError ys) (zs : List ScanItem) :
    Within limit ys (.ok e :: followedBy ys zs) :=
  ⟨Nat.lt_succ_of_le (length_le_followedBy hend zs), fun hy => .cons e (hy.followedBy_left zs)⟩

lemma Within.trans (h : Within limit zs ys) (h' : Within limit ys xs) :
    Within limit zs xs :=
  ⟨h.length_lt.trans h'.length_lt, h'.tooDeep ∘ h.tooDeep⟩

lemma Within.followedBy_right (events : List Event) (h : Within limit zs ys) :
    Within limit zs (followedBy (events.map .ok) ys) := by
  induction events with
  | nil => exact h
  | cons e events ih => exact ih.cons e

/-- What comes of entering a file anew from within itself meets the limit: it cannot be a proper part
of itself. -/
lemma tooDeep_of_reentered (path : String) {above deeper : List String}
    (h : above.length ≤ deeper.length) (lines : List (Except Fault String))
    (hwithin : Within limit (restUnchecked files limit path deeper 0 lines)
      (restUnchecked files limit path above 0 lines)) :
    FailsWith (IsTooDeep limit) (restUnchecked files limit path above 0 lines) := by
  rcases (restUnchecked_deeper path h 0 lines).eq_or_failsWith with hsame | htooDeep
  · have hlt := hwithin.length_lt
    rw [hsame] at hlt
    exact absurd hlt (Nat.lt_irrefl _)
  · exact hwithin.tooDeep htooDeep

/-- Without the check the scan goes on into a file on the way down to here. -/
def GoesBack (files : FileSystem) (limit : Nat) (path : String) (above : List String)
    (xs : List ScanItem) : Prop :=
  ∃ target ∈ path :: above, ∃ deeper lines, above.length < List.length deeper ∧
    files.outcomes target = .ok lines ∧
    Within limit (restUnchecked files limit target deeper 0 lines) xs

lemma GoesBack.imp {path : String} {above : List String} (h : GoesBack files limit path above xs)
    (hwithin : ∀ zs, Within limit zs xs → Within limit zs ys) : GoesBack files limit path above ys :=
  let ⟨target, hmem, deeper, lines, hdeeper, hlines, hzs⟩ := h
  ⟨target, hmem, deeper, lines, hdeeper, hlines, hwithin _ hzs⟩

lemma tooDeep_or_goesBack (path : String) (above : List String) (n : Nat)
    (pending : List (Except Fault String))
    (hopen : ∀ p ∈ path :: above, ∃ lines, files.outcomes p = .ok lines)
    (h : FailsWith IsCycle (restChecked files limit path above n pending)) :
    FailsWith (IsTooDeep limit) (restUnchecked files limit path above n pending) ∨
      GoesBack files limit path above (restUnchecked files limit path above n pending) := by
  unfold restChecked at h
  fun_induction rest files { maxIncludeDepth := limit, detectCycles := true } path above n pending with
  | case1 path above n => cases h
  | case2 path above n fault pending => cases h.of_error
  | case3 path above n text pending hparse ih =>
    rw [restUnchecked, rest_plain hparse]
    exact (ih hopen h.of_ok).imp (.cons _) fun hback => hback.imp fun _ => .cons _
  | case4 path above n text pending site cause hparse => cases h.of_error
  | case5 path above n text pending site target hparse hcycle =>
    obtain ⟨lines, hlines⟩ := hopen target hcycle.2
    by_cases hdeep : limit < (path :: above).length
    · left
      rw [restUnchecked, rest, hparse]
      simp only [Bool.false_eq_true, false_and, if_false, dif_pos hdeep]
      exact .here _ _ (.intro _ _)
    · right
      rw [restUnchecked_included hparse hdeep hlines]
      exact ⟨target, hcycle.2, path :: above, lines, Nat.lt_succ_self _, hlines,
        within_cons_followedBy _ (endsAtError_rest _ _ _ _ _ _) _⟩
  | case6 path above n text pending site target hparse hcycle hdeep => cases h.of_error
  | case7 path above n text pending site target hparse hcycle hdeep fault hopen => cases h.of_error
  | case8 path above n text pending target hparse hcycle hdeep lines hlines ihInner ihAfter =>
    rw [restUnchecked_included hparse hdeep hlines]
    have hopenInner : ∀ p ∈ target :: path :: above, ∃ lines, files.outcomes p = .ok lines :=
      List.forall_mem_cons.mpr ⟨⟨lines, hlines⟩, hopen⟩
    rcases failsWith_of_followedBy h.of_ok with hinner | ⟨events, hinner, hafter⟩
    · have hwithin : Within limit (restUnchecked files limit target (path :: above) 0 lines)
          (.ok (.fileChange target) ::
            followedBy (restUnchecked files limit target (path :: above) 0 lines)
              (.ok (.fileChange path) :: restUnchecked files limit path above (n + 1) pending)) :=
        within_cons_followedBy _ (endsAtError_rest _ _ _ _ _ _) _
      rcases ihInner hopenInner hinner with htooDeep | ⟨back, hback, deeper, lines', hdeeper, hlines', hw⟩
      · exact .inl (hwithin.tooDeep htooDeep)
      · rcases List.mem_cons.mp hback with rfl | hback
        · -- the included file leads back to itself
          obtain rfl := Except.ok.inj (hlines.symm.trans hlines')
          exact .inl (hwithin.tooDeep (tooDeep_of_reentered back hdeeper.le lines hw))
        · exact .inr ⟨back, hback, deeper, lines', (Nat.lt_succ_self _).trans hdeeper, hlines',
            hw.trans hwithin⟩
    · have hsame : events.map .ok = restUnchecked files limit target (path :: above) 0 lines := by
        rw [← (restChecked_cutShort target (path :: above) 0 lines).eq, restChecked, hinner]
        rw [restChecked, hinner]
        exact not_failsWith_map_ok events
      rw [← hsame]
      refine (ihAfter hopen hafter.of_ok).imp (fun htooDeep => ?_) fun hback => hback.imp fun zs hw => ?_
      · exact .cons _ ((htooDeep.cons _).followedBy_right events)
      · exact .cons _ ((hw.cons _).followedBy_right events)

lemma tooDeep_of_checked {root : String} {lines : List (Except Fault String)}
    (hlines : files.outcomes root = .ok lines)
    (h : FailsWith IsCycle (restChecked files limit root [] 0 lines)) :
    FailsWith (IsTooDeep limit) (restUnchecked files limit root [] 0 lines) := by
  have hopen : ∀ p ∈ [root], ∃ lines, files.outcomes p = .ok lines := by
    rintro p hp
    obtain rfl := List.mem_singleton.mp hp
    exact ⟨lines, hlines⟩
  rcases tooDeep_or_goesBack root [] 0 lines hopen h with
    htooDeep | ⟨back, hback, deeper, lines', hdeeper, hlines', hw⟩
  · exact htooDeep
  · obtain rfl := List.mem_singleton.mp hback
    obtain rfl := Except.ok.inj (hlines.symm.trans hlines')
    exact tooDeep_of_reentered back hdeeper.le lines hw

/-- What a scan gives without the check for cycles, compared with what it gives with it. -/
structure OnlyFailsLater (limit : Nat) (checked unchecked : List ScanItem) : Prop where
  same : (∀ path site, checked.getLast? ≠ some (.error (.cycle path site))) → unchecked = checked
  deeper : ∀ (events : List Event) (path : String) (site : Site),
    checked = events.map .ok ++ [.error (.cycle path site)] →
      ∃ (more : List Event) (path' : String) (site' : Site),
        unchecked = (events ++ more).map .ok ++ [.error (.tooDeep path' site' limit)]

/-- Without the check for cycles the scan of a root gives the same, unless the check stops it. Then
it gives the same up to there, goes on, and ends with the limit on the depth. -/
theorem cycle_check_only_fails_earlier (files : FileSystem) (limit : Nat) (root : String) :
    (∃ e, Scanner.openRoot files { maxIncludeDepth := limit, detectCycles := true } root = .error e ∧
      Scanner.openRoot files { maxIncludeDepth := limit, detectCycles := false } root = .error e) ∨
    ∃ checked unchecked,
      Scanner.openRoot files { maxIncludeDepth := limit, detectCycles := true } root = .ok checked ∧
      Scanner.openRoot files { maxIncludeDepth := limit, detectCycles := false } root =
        .ok unchecked ∧
      OnlyFailsLater limit checked.items unchecked.items := by
  cases hroot : files.outcomes root with
  | error fault =>
    left
    refine ⟨.cannotOpen root none fault, ?_, ?_⟩ <;>
      simp only [Scanner.openRoot, FileHandle.openFile, hroot]
  | ok lines =>
    right
    have hopen : ∀ options, ∃ s, Scanner.openRoot files options root = .ok s := fun options => by
      simp only [Scanner.openRoot, FileHandle.openFile, hroot, Except.ok.injEq, exists_eq']
    obtain ⟨checked, hchecked⟩ := hopen { maxIncludeDepth := limit, detectCycles := true }
    obtain ⟨unchecked, hunchecked⟩ := hopen { maxIncludeDepth := limit, detectCycles := false }
    refine ⟨checked, unchecked, hchecked, hunchecked, ?_⟩
    obtain ⟨lines', hlines, hc⟩ := items_openRoot hchecked
    obtain rfl := Except.ok.inj (hroot.symm.trans hlines)
    obtain ⟨lines', hlines, hu⟩ := items_openRoot hunchecked
    obtain rfl := Except.ok.inj (hroot.symm.trans hlines)
    have hcut : CutShort IsCycle checked.items unchecked.items := by
      rw [hc, hu]
      exact .cons _ (restChecked_cutShort root [] 0 lines)
    have hend : ∀ options, EndsAtError (ofRoot files options root lines) := fun options =>
      endsAtError_ofRoot files options root lines
    constructor
    · intro hlast
      refine (hcut.eq fun hcycle => ?_).symm
      obtain ⟨events, e, ⟨path, site⟩, hitems⟩ := hcycle.eq_concat (hc ▸ hend _)
      refine hlast path site ?_
      rw [hitems, List.getLast?_append_of_ne_nil _ (List.cons_ne_nil _ _)]
      rfl
    · intro events path site hitems
      have hfails : FailsWith IsCycle checked.items := by
        rw [hitems]
        exact failsWith_concat events (.intro path site)
      rw [hc] at hfails
      have htooDeep : FailsWith (IsTooDeep limit) unchecked.items := by
        rw [hu]
        exact .cons _ (tooDeep_of_checked hroot hfails.of_ok)
      obtain ⟨all, e, ⟨path', site'⟩, hall⟩ := htooDeep.eq_concat (hu ▸ hend _)
      obtain ⟨more, rfl⟩ := isPrefix_of_map_ok (hall ▸ hcut.isPrefix hitems)
      exact ⟨more, path', site', hall⟩

end SourceSplice.Proofs
