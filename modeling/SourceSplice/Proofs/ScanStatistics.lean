import SourceSplice.Proofs.DepthLimit
import SourceSplice.Proofs.OpenedPaths
import SourceSplice.Proofs.PreprocessedSource
/-!
# The statistics of a scan

A scan counts the files that it opens and keeps the largest depth that its stack had. What it gives can
be counted as well: a change of file either enters a file that was just opened, or returns to one. Every
file that was entered is either still on the stack or was left again, so the two counts agree at each
point of a scan. They also agree if the file system gives something else from one step to the next.
-/

namespace SourceSplice

namespace Scanner

/-- What a scan can become in steps, before each of which the files may change. `past` are the scans of
which a step was taken, the latest first. -/
inductive Trace (s : Scanner) : (past : List Scanner) → Scanner → Prop where
  | start : Trace s [] s
  | change {past : List Scanner} {t : Scanner} (files : FileSystem) :
    Trace s past t → Trace s past { t with files }
  | step {past : List Scanner} {t : Scanner} : Trace s past t → Trace s (t :: past) t.next.2

/-- What `f` reads off the steps of a trace, the first one first. -/
def along {α : Type} (f : Scanner → Option α) (past : List Scanner) : List α :=
  past.reverse.filterMap f

/-- The number of files on the stack. -/
def depth (s : Scanner) : Nat :=
  s.stack.length

/-- The file that the next item says the scan is in now. -/
def changes? (s : Scanner) : Option String :=
  s.next.1.bind fun x => x.toOption.bind Event.changedFile?

/-- The file that the next item says the scan enters: the root, or a file that comes upon the stack. -/
def enters? (s : Scanner) : Option String :=
  if s.entered = false ∨ s.depth < s.next.2.depth then s.changes? else none

/-- The file that the next item says the scan comes back to, since the file upon it is over. -/
def returnsTo? (s : Scanner) : Option String :=
  if s.next.2.depth < s.depth then s.changes? else none

/-- The path that the next step opens, if it opens one and gets a reader. -/
def opens? (s : Scanner) : Option String :=
  s.admitted?.filter fun target => (s.files.openFile target).toOption.isSome

/-- The statistics of a scan of a root are those of what happened so far. -/
structure Counted (limit : Nat) (past : List Scanner) (t : Scanner) : Prop where
  changes : along changes? past ≠ [] → 1 ≤ t.depth →
    (along changes? past).length + t.depth = 2 * t.filesOpened
  /-- The root was opened before the first step. -/
  opens : t.filesOpened = 1 + (along opens? past).length
  deepest : IsGreatest { n | n ∈ (t :: past).map depth } t.maxDepth
  bounds : t.depth ≤ t.maxDepth ∧ t.maxDepth ≤ min t.filesOpened (limit + 1)
  failure : ∀ e, t.next.1 = some (.error e) →
    t.changes? = none ∧ t.opens? = none ∧ t.next.2.filesOpened = t.filesOpened ∧
      t.next.2.maxDepth = t.maxDepth
  success : (∀ u ∈ past, ∃ e, u.next.1 = some (.ok e)) → t.next.1 = none →
    (along enters? past).length = t.next.2.filesOpened ∧
      (along returnsTo? past).length + 1 = t.next.2.filesOpened

/-- What preprocessing reports of a scan that came to its end is what the scan has counted, and what
its steps show: the files are those named as current, and also those entered, each at its first place. -/
structure Reported (s : Scanner) (out : Preprocessed) : Prop where
  events : out.events = out.lines + 2 * s.run.2.filesOpened - 1
  maxDepth : out.maxDepth = s.run.2.maxDepth
  files : ∃ past t, s.Trace past t ∧ t.next = (none, s.run.2) ∧
    past.reverse.map (·.next.1) = s.items.map some ∧
    out.files = (along changes? past).eraseDups ∧ out.files = (along enters? past).eraseDups

end Scanner

end SourceSplice

namespace SourceSplice.Proofs
open Scanner

variable {s t : Scanner} {past : List Scanner} {x : Option ScanItem} {top : FileHandle}
  {below : List FileHandle} {root target : String} {limit : Nat} {e : ScanError}

section Steps

lemma opens?_of_none (h : s.admitted? = none) : s.opens? = none := by
  rw [opens?, h, Option.filter_none]

lemma Asks.opens?_eq_none (h : Asks s x t) (hrequests : t.requests = s.requests) :
    s.opens? = none := by
  have hlength := congrArg List.length (hrequests.symm.trans h.requests)
  cases hadmitted : s.admitted? with
  | none => exact opens?_of_none hadmitted
  | some target =>
    rw [hadmitted, Option.toList_some, List.singleton_append, List.length_cons] at hlength
    omega

lemma isSome_openFile (files : FileSystem) (path : String) :
    (files.openFile path).toOption.isSome = (files.outcomes path).toOption.isSome := by
  unfold FileSystem.outcomes
  cases files.openFile path <;> rfl

lemma opens?_of_admitted (h : s.admitted? = some target) :
    s.opens? = if (s.files.outcomes target).toOption.isSome then some target else none := by
  rw [opens?, h, Option.filter_some, isSome_openFile]

lemma Trouble.opens?_eq_none (h : Trouble s top e) (hstack : s.stack = top :: below)
    (hentered : s.entered = true) : s.opens? = none := by
  have hadmitted := h.admitted?_eq hstack hentered
  cases h with
  | unopened text target pending fault hpending hparse hcycle hdeep hlines =>
    rw [opens?_of_admitted hadmitted, hlines]
    rfl
  | _ => exact opens?_of_none hadmitted

lemma Advances.changes?_eq (h : Advances s x t) :
    s.changes? = x.bind fun y => y.toOption.bind Event.changedFile? := by
  rw [changes?, h.next_eq]

/-- What a step has to show. -/
structure Notes (s : Scanner) (changed entered returned opened : Option String) : Prop where
  changes : s.changes? = changed
  enters : s.enters? = entered
  returns : s.returnsTo? = returned
  opens : s.opens? = opened

lemma notes_silent (hchanges : s.changes? = none) (hopens : s.opens? = none) :
    Notes s none none none none := by
  refine ⟨hchanges, ?_, ?_, hopens⟩
  · rw [enters?, hchanges, ite_self]
  · rw [returnsTo?, hchanges, ite_self]

lemma notes_entered (hchanges : s.changes? = some target) (hle : s.depth ≤ s.next.2.depth)
    (henters : s.entered = false ∨ s.depth < s.next.2.depth) {opened : Option String}
    (hopens : s.opens? = opened) : Notes s (some target) (some target) none opened := by
  refine ⟨hchanges, ?_, ?_, hopens⟩
  · rw [enters?, if_pos henters, hchanges]
  · rw [returnsTo?, if_neg (Nat.not_lt.mpr hle)]

lemma notes_returned (hchanges : s.changes? = some target) (hentered : s.entered = true)
    (hlt : s.next.2.depth < s.depth) (hopens : s.opens? = none) :
    Notes s (some target) none (some target) none := by
  have hstays : ¬(s.entered = false ∨ s.depth < s.next.2.depth) := by
    rintro (hunentered | hmore)
    · cases hentered.symm.trans hunentered
    · exact absurd hmore hlt.asymm
  refine ⟨hchanges, ?_, ?_, hopens⟩
  · rw [enters?, if_neg hstays]
  · rw [returnsTo?, if_pos hlt, hchanges]

/-- What a step is for the statistics. -/
inductive Effect (s : Scanner) : Scanner → Prop where
  | silent (t : Scanner) : (s.entered = true ∨ s.stack = []) → Notes s none none none none →
    t.entered = s.entered → t.filesOpened = s.filesOpened → t.maxDepth = s.maxDepth →
      (t.stack = [] ∨ t.stack.map FileHandle.path = s.stack.map FileHandle.path) → Effect s t
  | root (top : FileHandle) (below : List FileHandle) : s.stack = top :: below →
    s.entered = false → Notes s (some top.path) (some top.path) none none →
      Effect s { s with entered := true }
  | entry (target : String) (t : Scanner) : s.entered = true →
    Notes s (some target) (some target) none (some target) → 1 ≤ s.depth →
      s.depth ≤ s.options.maxIncludeDepth → t.entered = true →
      t.filesOpened = s.filesOpened + 1 → t.maxDepth = max s.maxDepth (s.depth + 1) →
      t.stack.map FileHandle.path = target :: s.stack.map FileHandle.path → Effect s t
  | exit (top parent : FileHandle) (below : List FileHandle) : s.stack = top :: parent :: below →
    s.entered = true → Notes s (some parent.path) none (some parent.path) none →
      Effect s { s with stack := parent :: below }

lemma Advances.effect (h : Advances s x t) : Effect s t := by
  have hchanges := h.changes?_eq
  have hasks := h.asks
  have hnext : s.next.2 = t := congrArg (·.2) h.next_eq
  cases h with
  | halted hstack =>
    have hopens := hasks.opens?_eq_none rfl
    exact .silent _ (.inr hstack) (notes_silent hchanges hopens) rfl rfl rfl (.inl hstack)
  | opens top below hstack hentered =>
    have hopens := hasks.opens?_eq_none rfl
    have hnotes := notes_entered hchanges (by rw [hnext]; rfl) (.inl hentered) hopens
    exact .root top below hstack hentered hnotes
  | finishes top hstack hentered hpending =>
    have hopens := hasks.opens?_eq_none rfl
    exact .silent _ (.inl hentered) (notes_silent hchanges hopens) rfl rfl rfl (.inl rfl)
  | returns top parent below hstack hentered hpending =>
    have hopens := hasks.opens?_eq_none rfl
    have hless : s.next.2.depth < s.depth := by
      rw [hnext, depth, depth, hstack]
      exact Nat.lt_succ_self _
    exact .exit top parent below hstack hentered (notes_returned hchanges hentered hless hopens)
  | reads top below text pending hstack hentered hpending hparse =>
    have hopens := hasks.opens?_eq_none rfl
    refine .silent _ (.inl hentered) (notes_silent hchanges hopens) rfl rfl rfl (.inr ?_)
    rw [hstack]
    rfl
  | enters top below text target pending lines hstack hentered hpending hparse hcycle hdeep hlines =>
    have hadmitted : s.admitted? = some target := by
      rw [admitted?_of_include hstack hentered hpending hparse, if_neg hcycle, if_neg hdeep]
    have hopens : s.opens? = some target := by
      rw [opens?_of_admitted hadmitted, hlines]
      rfl
    have hmore : s.depth < s.next.2.depth := by
      rw [hnext, depth, depth, hstack]
      exact Nat.lt_succ_self _
    have hnotes := notes_entered hchanges hmore.le (.inr hmore) hopens
    have hin : 1 ≤ s.depth := by
      rw [depth, hstack]
      exact Nat.le_add_left 1 _
    refine .entry target _ hentered hnotes hin (Nat.le_of_not_lt hdeep) hentered rfl rfl ?_
    rw [hstack]
    rfl
  | fails top below e hstack hentered htrouble =>
    have hopens := htrouble.opens?_eq_none hstack hentered
    exact .silent _ (.inl hentered) (notes_silent hchanges hopens) rfl rfl rfl (.inl rfl)

lemma effect_next (s : Scanner) : Effect s s.next.2 :=
  (advances_next s).effect

lemma depth_eq_of_paths {paths : List String} (h : t.stack.map FileHandle.path = paths) :
    t.depth = paths.length := by
  rw [depth, ← h, List.length_map]

end Steps

section Tally

lemma along_cons {α : Type} (f : Scanner → Option α) (t : Scanner) (past : List Scanner) :
    along f (t :: past) = along f past ++ (f t).toList := by
  rw [along, List.reverse_cons, List.filterMap_append]
  cases h : f t with
  | none => rw [List.filterMap_cons_none h, List.filterMap_nil, along, Option.toList_none]
  | some a => rw [List.filterMap_cons_some h, List.filterMap_nil, along, Option.toList_some]

/-- The files that a scan has named as current, entered, returned to and opened so far. Each one that
it opened was entered, and was left unless it is on the stack. -/
structure Tally (root : String) (changed entered returned opened : List String) (t : Scanner) :
    Prop where
  filesOpened : t.filesOpened = 1 + opened.length
  changes : changed.length = entered.length + returned.length
  unentered : t.entered = false →
    entered = [] ∧ returned = [] ∧ opened = [] ∧ t.stack.map FileHandle.path = [root]
  entries : t.entered = true → entered = root :: opened
  returns : t.entered = true → 1 ≤ t.depth → returned.length + t.depth = t.filesOpened

variable {changed entered returned opened : List String}

lemma tally_start (hunentered : s.entered = false) (hfiles : s.filesOpened = 1)
    (hstack : s.stack.map FileHandle.path = [root]) : Tally root [] [] [] [] s := by
  refine ⟨hfiles, rfl, fun _ => ⟨rfl, rfl, rfl, hstack⟩, ?_, ?_⟩
  · intro hentered
    cases hunentered.symm.trans hentered
  · intro hentered
    cases hunentered.symm.trans hentered

/-- Before its first item a scan has its root open. -/
lemma Tally.entered_of_over (h : Tally root changed entered returned opened t)
    (hover : t.entered = true ∨ t.stack = []) : t.entered = true := by
  obtain hentered | hnil := hover
  · exact hentered
  · by_contra hnot
    obtain ⟨-, -, -, hroot⟩ := h.unentered (Bool.eq_false_iff.mpr hnot)
    rw [hnil] at hroot
    cases hroot

lemma Tally.step (h : Tally root changed entered returned opened t) :
    Tally root (changed ++ t.changes?.toList) (entered ++ t.enters?.toList)
      (returned ++ t.returnsTo?.toList) (opened ++ t.opens?.toList) t.next.2 := by
  have hopened := h.filesOpened
  have hchanges := h.changes
  have heffect := effect_next t
  generalize t.next.2 = t' at heffect
  cases heffect with
  | silent _ hover hnotes hentered' hfiles _ hstack =>
    have hentered := h.entered_of_over hover
    simp only [hnotes.changes, hnotes.enters, hnotes.returns, hnotes.opens, Option.toList_none,
      List.append_nil]
    refine ⟨hfiles.trans hopened, hchanges, ?_, fun _ => h.entries hentered, fun _ hin => ?_⟩
    · intro hnot
      cases (hentered'.trans hentered).symm.trans hnot
    · -- where nothing is told, either all files are closed or a line was read off the current one
      obtain hnil | hpaths := hstack
      · rw [depth, hnil] at hin
        cases hin
      · have hsame : t'.depth = t.depth := by
          rw [depth_eq_of_paths hpaths, List.length_map, depth]
        rw [hsame] at hin ⊢
        rw [hfiles]
        exact h.returns hentered hin
  | root top below hstack hunentered hnotes =>
    obtain ⟨rfl, rfl, rfl, hroot⟩ := h.unentered hunentered
    have hone : t.depth = 1 := depth_eq_of_paths hroot
    rw [hstack, List.map_cons, List.cons.injEq] at hroot
    simp only [hnotes.changes, hnotes.enters, hnotes.returns, hnotes.opens, Option.toList_none,
      Option.toList_some, List.append_nil, List.nil_append]
    refine ⟨hopened, ?_, nofun, fun _ => ?_, fun _ _ => ?_⟩
    · rw [List.length_append, hchanges]
      rfl
    · rw [hroot.1]
    · rw [hopened]
      exact (Nat.zero_add _).trans hone
  | entry target _ hentered hnotes hin _ hentered' hfiles _ hpaths =>
    have hreturns := h.returns hentered hin
    have hmore : t'.depth = t.depth + 1 := by
      rw [depth_eq_of_paths hpaths, List.length_cons, List.length_map, depth]
    simp only [hnotes.changes, hnotes.enters, hnotes.returns, hnotes.opens, Option.toList_none,
      Option.toList_some, List.append_nil]
    refine ⟨?_, ?_, ?_, fun _ => ?_, fun _ _ => ?_⟩
    · rw [List.length_append, List.length_singleton]
      omega
    · simp only [List.length_append, List.length_singleton]
      omega
    · intro hnot
      cases hentered'.symm.trans hnot
    · rw [h.entries hentered, List.cons_append]
    · omega
  | exit top parent below hstack hentered hnotes =>
    have hdepth : t.depth = below.length + 2 := by rw [depth, hstack]; rfl
    have hreturns := h.returns hentered (by omega)
    simp only [hnotes.changes, hnotes.enters, hnotes.returns, hnotes.opens, Option.toList_none,
      Option.toList_some, List.append_nil]
    refine ⟨hopened, ?_, ?_, fun _ => h.entries hentered, fun _ _ => ?_⟩
    · simp only [List.length_append, List.length_singleton]
      omega
    · intro hnot
      cases hentered.symm.trans hnot
    · change (returned ++ [parent.path]).length + (below.length + 1) = t.filesOpened
      rw [List.length_append, List.length_singleton]
      omega

end Tally

section Depths

/-- The depths that the stack of a scan had so far, the latest first. -/
structure Depths (limit : Nat) (depths : List Nat) (t : Scanner) : Prop where
  limit_eq : t.options.maxIncludeDepth = limit
  deepest : IsGreatest { n | n ∈ depths } t.maxDepth
  depth_le : t.depth ≤ t.maxDepth
  le_filesOpened : t.maxDepth ≤ t.filesOpened
  le_limit : t.maxDepth ≤ limit + 1

lemma Effect.maxDepth_eq (h : Effect s t) (hle : s.depth ≤ s.maxDepth) :
    t.maxDepth = max t.depth s.maxDepth := by
  cases h with
  | silent _ _ _ _ _ hdepth hstack =>
    have hless : t.depth ≤ s.depth := by
      obtain hnil | hpaths := hstack
      · rw [depth, hnil]
        exact Nat.zero_le _
      · rw [depth_eq_of_paths hpaths, List.length_map, depth]
    rw [hdepth, max_eq_right (hless.trans hle)]
  | root => exact (max_eq_right hle).symm
  | entry target _ _ _ _ _ _ _ hdepth hpaths =>
    rw [hdepth, depth_eq_of_paths hpaths, List.length_cons, List.length_map, depth, max_comm]
  | exit top parent below hstack =>
    rw [depth, hstack, List.length_cons] at hle
    exact (max_eq_right ((Nat.le_succ _).trans hle)).symm

lemma isGreatest_cons {depths : List Nat} {n m : Nat} (h : IsGreatest { k | k ∈ depths } m) :
    IsGreatest { k | k ∈ n :: depths } (max n m) := by
  have hset : { k | k ∈ n :: depths } = insert n { k | k ∈ depths } := by
    ext k
    exact List.mem_cons
  rw [hset]
  exact h.insert n

lemma Depths.step {changed entered returned opened : List String} {depths : List Nat}
    (h : Depths limit depths t) (htally : Tally root changed entered returned opened t) :
    Depths limit (t.next.2.depth :: depths) t.next.2 := by
  have heffect := effect_next t
  have hoptions := (advances_next t).options_eq
  have hmax := heffect.maxDepth_eq h.depth_le
  have hbounds : t.next.2.maxDepth ≤ t.next.2.filesOpened ∧ t.next.2.maxDepth ≤ limit + 1 := by
    have hfiles := h.le_filesOpened
    have hlimit := h.le_limit
    generalize t.next.2 = t' at heffect
    cases heffect with
    | silent _ _ _ _ hfiles' hdepth =>
      rw [hfiles', hdepth]
      exact ⟨hfiles, hlimit⟩
    | root => exact ⟨hfiles, hlimit⟩
    | entry target _ hentered _ hin hdeep _ hfiles' hdepth =>
      -- the files on the stack were opened and not left, so there are no more of them than were opened
      have hreturns := htally.returns hentered hin
      have hlimit_eq := h.limit_eq
      omega
    | exit => exact ⟨hfiles, hlimit⟩
  refine ⟨by rw [hoptions, h.limit_eq], ?_, ?_, hbounds.1, hbounds.2⟩
  · rw [hmax]
    exact isGreatest_cons h.deepest
  · rw [hmax]
    exact le_max_left _ _

end Depths

section Firsts

lemma eraseDups_concat_congr {xs ys : List String} (h : xs.eraseDups = ys.eraseDups) (x : String) :
    (xs ++ [x]).eraseDups = (ys ++ [x]).eraseDups := by
  have hmem : x ∈ xs ↔ x ∈ ys := by rw [← List.mem_eraseDups, h, List.mem_eraseDups]
  rw [eraseDups_concat, eraseDups_concat, h]
  simp only [hmem]

/-- Files that are on the stack were entered before, so returning to one names no new file. -/
structure Firsts (changed entered : List String) (t : Scanner) : Prop where
  onStack : t.entered = true → ∀ path ∈ t.stack.map FileHandle.path, path ∈ entered
  eraseDups_eq : changed.eraseDups = entered.eraseDups

lemma Firsts.step {changed entered returned opened : List String} (h : Firsts changed entered t)
    (htally : Tally root changed entered returned opened t) :
    Firsts (changed ++ t.changes?.toList) (entered ++ t.enters?.toList) t.next.2 := by
  have heffect := effect_next t
  generalize t.next.2 = t' at heffect
  cases heffect with
  | silent _ _ hnotes hentered _ _ hstack =>
    rw [hnotes.changes, hnotes.enters, Option.toList_none, List.append_nil, List.append_nil]
    refine ⟨fun hentered' path hpath => ?_, h.eraseDups_eq⟩
    obtain hnil | hpaths := hstack
    · rw [hnil] at hpath
      cases hpath
    · exact h.onStack (hentered.symm.trans hentered') path (hpaths ▸ hpath)
  | root top below hstack hunentered hnotes =>
    rw [hnotes.changes, hnotes.enters, Option.toList_some]
    refine ⟨fun _ path hpath => ?_, eraseDups_concat_congr h.eraseDups_eq _⟩
    obtain ⟨-, -, -, hroot⟩ := htally.unentered hunentered
    have htop : top.path = root := by
      rw [hstack, List.map_cons, List.cons.injEq] at hroot
      exact hroot.1
    rw [hroot] at hpath
    rw [List.mem_singleton.mp hpath, htop]
    exact List.mem_concat_self
  | entry target _ hentered hnotes _ _ _ _ _ hpaths =>
    rw [hnotes.changes, hnotes.enters, Option.toList_some]
    refine ⟨fun _ path hpath => ?_, eraseDups_concat_congr h.eraseDups_eq _⟩
    rw [hpaths, List.mem_cons] at hpath
    rcases hpath with rfl | hpath
    · exact List.mem_concat_self
    · exact List.mem_append_left _ (h.onStack hentered path hpath)
  | exit top parent below hstack hentered hnotes =>
    rw [hnotes.changes, hnotes.enters, Option.toList_some, Option.toList_none, List.append_nil]
    have hold := h.onStack hentered
    rw [hstack, List.map_cons] at hold
    refine ⟨fun _ path hpath => hold path (List.mem_cons_of_mem _ hpath), ?_⟩
    -- the parent was entered when it came upon the stack
    have hknown : parent.path ∈ changed := by
      rw [← List.mem_eraseDups, h.eraseDups_eq, List.mem_eraseDups]
      exact hold _ (List.mem_cons_of_mem _ List.mem_cons_self)
    rw [eraseDups_concat, if_pos hknown, h.eraseDups_eq]

end Firsts

section Traces

variable {files : FileSystem} {options : ScanOptions}

lemma tally_trace (h : Scanner.openRoot files options root = .ok s) (htrace : s.Trace past t) :
    Tally root (along changes? past) (along enters? past) (along returnsTo? past)
      (along opens? past) t := by
  induction htrace with
  | start =>
    obtain ⟨lines, -, rfl⟩ := eq_of_openRoot h
    exact tally_start rfl rfl rfl
  | change files' _ ih =>
    exact ⟨ih.filesOpened, ih.changes, ih.unentered, ih.entries, ih.returns⟩
  | step _ ih =>
    simp only [along_cons]
    exact ih.step

lemma depths_trace (h : Scanner.openRoot files options root = .ok s) (htrace : s.Trace past t) :
    Depths options.maxIncludeDepth ((t :: past).map depth) t := by
  induction htrace with
  | start =>
    obtain ⟨lines, -, rfl⟩ := eq_of_openRoot h
    refine ⟨rfl, ?_, le_rfl, le_rfl, Nat.le_add_left 1 _⟩
    exact ⟨List.mem_singleton_self _, fun n hn => (List.mem_singleton.mp hn).le⟩
  | change files' _ ih =>
    exact ⟨ih.limit_eq, ih.deepest, ih.depth_le, ih.le_filesOpened, ih.le_limit⟩
  | step htrace ih => exact ih.step (tally_trace h htrace)

lemma firsts_trace (h : Scanner.openRoot files options root = .ok s) (htrace : s.Trace past t) :
    Firsts (along changes? past) (along enters? past) t := by
  induction htrace with
  | start =>
    obtain ⟨lines, -, rfl⟩ := eq_of_openRoot h
    exact ⟨nofun, rfl⟩
  | change files' _ ih => exact ⟨ih.onStack, ih.eraseDups_eq⟩
  | step htrace ih =>
    simp only [along_cons]
    exact ih.step (tally_trace h htrace)

lemma Advances.stack_ne_nil {e : Event} (h : Advances s (some (.ok e)) t) : t.stack ≠ [] := by
  cases h with
  | opens top below hstack =>
    rw [hstack]
    exact List.cons_ne_nil _ _
  | returns => exact List.cons_ne_nil _ _
  | reads => exact List.cons_ne_nil _ _
  | enters => exact List.cons_ne_nil _ _

lemma stack_ne_nil_of_events (h : Scanner.openRoot files options root = .ok s)
    (htrace : s.Trace past t) (hevents : ∀ u ∈ past, ∃ e, u.next.1 = some (.ok e)) :
    t.stack ≠ [] := by
  induction htrace with
  | start =>
    obtain ⟨lines, -, rfl⟩ := eq_of_openRoot h
    exact List.cons_ne_nil _ _
  | change files' _ ih => exact ih hevents
  | step _ _ =>
    obtain ⟨e, he⟩ := hevents _ List.mem_cons_self
    exact (he ▸ advances_next _).stack_ne_nil

lemma Advances.keeps_of_error {e : ScanError} (h : Advances s (some (.error e)) t) :
    s.changes? = none ∧ s.opens? = none ∧ t.filesOpened = s.filesOpened ∧
      t.maxDepth = s.maxDepth := by
  have hchanges := h.changes?_eq
  cases h with
  | fails top below _ hstack hentered htrouble =>
    exact ⟨hchanges, htrouble.opens?_eq_none hstack hentered, rfl, rfl⟩

lemma Advances.depth_of_none (h : Advances s none t) (hstack : s.stack ≠ []) :
    s.entered = true ∧ s.depth = 1 ∧ t.filesOpened = s.filesOpened := by
  cases h with
  | halted hnil => exact absurd hnil hstack
  | finishes top htop hentered =>
    refine ⟨hentered, ?_, rfl⟩
    rw [depth, htop]
    rfl

lemma counted_trace (h : Scanner.openRoot files options root = .ok s) (htrace : s.Trace past t) :
    Counted options.maxIncludeDepth past t := by
  have htally := tally_trace h htrace
  have hdepths := depths_trace h htrace
  refine ⟨?_, htally.filesOpened, hdepths.deepest, ⟨hdepths.depth_le, ?_⟩, ?_, ?_⟩
  · intro hchanged hdepth
    have hentered : t.entered = true := by
      by_contra hnot
      obtain ⟨hentered, hreturned, -, -⟩ := htally.unentered (Bool.eq_false_iff.mpr hnot)
      have hlength := htally.changes
      rw [hentered, hreturned] at hlength
      exact hchanged (List.eq_nil_of_length_eq_zero hlength)
    have hentries := congrArg List.length (htally.entries hentered)
    have hreturns := htally.returns hentered hdepth
    have hchanges := htally.changes
    have hfiles := htally.filesOpened
    rw [List.length_cons] at hentries
    omega
  · exact le_min hdepths.le_filesOpened hdepths.le_limit
  · intro e he
    have hadv := advances_next t
    rw [he] at hadv
    exact hadv.keeps_of_error
  · intro hevents hend
    have hadv := advances_next t
    rw [hend] at hadv
    have hstack := stack_ne_nil_of_events h htrace hevents
    obtain ⟨hentered, hone, hsame⟩ := hadv.depth_of_none hstack
    have hentries := congrArg List.length (htally.entries hentered)
    have hreturns := htally.returns hentered hone.ge
    have hfiles := htally.filesOpened
    rw [List.length_cons] at hentries
    constructor <;> omega

end Traces

section Preprocessing

variable {files : FileSystem} {options : ScanOptions} {out : Preprocessed}

lemma exists_trace_run (htrace : s.Trace past t) :
    ∃ past' u, s.Trace past' u ∧ u.next = (none, t.run.2) ∧
      past'.reverse.map (·.next.1) = past.reverse.map (·.next.1) ++ t.items.map some := by
  induction t using Scanner.run.induct generalizing past with
  | case1 t last _ hnext =>
    refine ⟨past, t, htrace, ?_, ?_⟩
    · rw [hnext, Scanner.run_of_next_none hnext]
    · rw [Scanner.items, Scanner.run_of_next_none hnext, List.map_nil, List.append_nil]
  | case2 t x rest _ hnext _ xs last _ ih =>
    have hstep : s.Trace (t :: past) rest := by
      have hstep := htrace.step
      rwa [hnext] at hstep
    obtain ⟨past', u, htrace', hend, hitems⟩ := ih hstep
    refine ⟨past', u, htrace', ?_, ?_⟩
    · rw [hend, Scanner.run_of_next_some hnext]
    · rw [hitems, Scanner.items, Scanner.items, Scanner.run_of_next_some hnext, List.reverse_cons,
        List.map_append, List.append_assoc]
      simp only [List.map_cons, List.map_nil, hnext, List.singleton_append]

lemma along_changes?_eq {events : List Event}
    (h : past.reverse.map (·.next.1) = (events.map (.ok : Event → ScanItem)).map some) :
    along changes? past = events.filterMap Event.changedFile? := by
  have hitems : along changes? past = (past.reverse.map (·.next.1)).filterMap
      fun x => x.bind fun y => y.toOption.bind Event.changedFile? := by
    rw [List.filterMap_map]
    rfl
  rw [hitems, h, List.filterMap_map, List.filterMap_map]
  rfl

lemma length_events (events : List Event) : events.length =
    (events.filterMap Event.sourceLine?).length + (events.filterMap Event.changedFile?).length := by
  induction events with
  | nil => rfl
  | cons e events ih =>
    cases e <;>
      simp only [List.filterMap_cons, Event.sourceLine?, Event.changedFile?, List.length_cons, ih] <;>
      omega

lemma exists_event_of_mem {events : List Event}
    (h : past.reverse.map (·.next.1) = (events.map (.ok : Event → ScanItem)).map some) {u : Scanner}
    (hu : u ∈ past) : ∃ e, u.next.1 = some (.ok e) := by
  have hmem : u.next.1 ∈ past.reverse.map (·.next.1) :=
    List.mem_map_of_mem (List.mem_reverse.mpr hu)
  rw [h, List.map_map] at hmem
  obtain ⟨e, -, he⟩ := List.mem_map.mp hmem
  exact ⟨e, he.symm⟩

lemma reported_preprocess (h : Scanner.openRoot files options root = .ok s)
    (hout : preprocess files options root = .ok out) : Reported s out := by
  obtain ⟨s', events, folded, hs', hitems, hadd, rfl⟩ := exists_fold_of_preprocess hout
  obtain rfl : s' = s := Except.ok.inj ((openRoot_of_start hs').symm.trans h)
  obtain ⟨past, t, htrace, hend, hpast⟩ := exists_trace_run (Trace.start (s := s'))
  rw [List.reverse_nil, List.map_nil, List.nil_append] at hpast
  have hpast' : past.reverse.map (·.next.1) = (events.map .ok).map some := hitems ▸ hpast
  have hchanged := along_changes?_eq hpast'
  have hfiles : folded.files = ([] ++ events.filterMap Event.changedFile?).eraseDups :=
    addAll_files events rfl hadd
  rw [List.nil_append, ← hchanged] at hfiles
  refine ⟨?_, rfl, past, t, htrace, hend, hpast, hfiles, ?_⟩
  · have hevents : folded.events = events.length := by
      have hcount := addAll_empty (events.map .ok)
      rw [hadd, tryCount_map_ok] at hcount
      exact Except.ok.inj hcount
    have hlines : folded.lines = 0 + (events.filterMap Event.sourceLine?).length :=
      addAll_lines events hadd
    have hlength := length_events events
    have htally := (tally_trace h htrace).changes
    obtain ⟨hentries, hreturns⟩ := (counted_trace h htrace).success
      (fun u hu => exists_event_of_mem hpast' hu) (congrArg (·.1) hend)
    rw [hend] at hentries hreturns
    rw [hchanged] at htally
    simp only at hentries hreturns ⊢
    omega
  · rw [hfiles, (firsts_trace h htrace).eraseDups_eq]

/-- At each point of a scan of a root, its statistics agree with what it gave and with what it opened.
So preprocessing reports an event for each line and two for each time that a file was opened, less one
since nothing returns from the root. -/
theorem statistics_match_events (files : FileSystem) (options : ScanOptions) (root : String)
    (s : Scanner) (h : Scanner.openRoot files options root = .ok s) :
    (∀ past t, s.Trace past t → Counted options.maxIncludeDepth past t) ∧
      ∀ out, preprocess files options root = .ok out → Reported s out :=
  ⟨fun _ _ htrace => counted_trace h htrace, fun _ hout => reported_preprocess h hout⟩

theorem statistics_match_events_including :
    ∃ s, Scanner.openRoot includingFiles {} "a" = .ok s ∧
      s.Trace [s.next.2, s] s.next.2.next.2 ∧
      along changes? [s.next.2, s] = ["a", "b"] ∧ along enters? [s.next.2, s] = ["a", "b"] ∧
      along opens? [s.next.2, s] = ["b"] ∧ s.next.2.next.2.depth = 2 ∧
      2 + 2 = 2 * s.next.2.next.2.filesOpened ∧
      preprocess includingFiles {} "a" =
        .ok { source := "y\nx\n", events := 5, lines := 2, files := ["a", "b"], maxDepth := 2 } ∧
      5 = 2 + 2 * s.run.2.filesOpened - 1 := by
  have hout : preprocess includingFiles {} "a" =
      .ok { source := "y\nx\n", events := 5, lines := 2, files := ["a", "b"], maxDepth := 2 } := by
    decide +kernel
  obtain ⟨s, hs⟩ : ∃ s, Scanner.openRoot includingFiles {} "a" = .ok s := ⟨_, rfl⟩
  obtain ⟨hcounted, hreported⟩ := statistics_match_events includingFiles {} "a" s hs
  have htrace : s.Trace [s.next.2, s] s.next.2.next.2 := .step (.step .start)
  obtain ⟨lines, hlines, hopen⟩ := eq_of_openRoot hs
  obtain rfl := Except.ok.inj (outcomes_includingFiles.symm.trans hlines)
  have hchanges : along changes? [s.next.2, s] = ["a", "b"] := by
    rw [hopen]
    cbv
  have henters : along enters? [s.next.2, s] = ["a", "b"] := by
    rw [hopen]
    cbv
  have hopens : along opens? [s.next.2, s] = ["b"] := by
    rw [hopen]
    cbv
  have hdepth : s.next.2.next.2.depth = 2 := by
    rw [hopen]
    cbv
  have hcount := (hcounted _ _ htrace).changes
  rw [hchanges, hdepth] at hcount
  exact ⟨s, hs, htrace, hchanges, henters, hopens, hdepth,
    hcount (List.cons_ne_nil _ _) one_le_two, hout, (hreported _ hout).events⟩

end Preprocessing

end SourceSplice.Proofs
