import SourceSplice.Proofs.ScanThreadInvariant
/-!
# The calls of a consumer return

While the consumer waits in a call, every step of a scan takes something off `remainingSteps`: a
file has finitely many lines, and the limit on the include depth bounds the files that they can
bring. Since there is always a step to take, every call returns, whichever steps are taken.
-/

namespace SourceSplice.Proofs
open Scanner

/-- What the scanning thread has not taken from a file yet, of all that its thread reads. -/
def untaken (f : OpenFile) : List (Except Fault String) :=
  match f.position with
  | .offering x => x :: f.pending
  | .settling x => if f.out.slot.isSome then x :: f.pending else f.pending
  | _ => f.pending

/-- A bound on the steps that the thread of a file still takes. -/
def threadSteps (f : OpenFile) : Nat :=
  match f.position with
  | .offering _ => 5 * f.pending.length + 8
  | .settling _ => 5 * f.pending.length + 7
  | .checking => 5 * f.pending.length + 5
  | .reading => 5 * f.pending.length + 4
  | .leaving => 2
  | .closing => 1
  | .ended => 0

/-- A bound on the steps that these lines of a file still take, besides those of its own thread, if
so many more files may be stacked upon it. -/
def scanSteps (files : FileSystem) : (levels : Nat) → List (Except Fault String) → Nat
  | 0, lines => 10 * lines.length + 5
  | levels + 1, lines =>
    lines.foldr (fun x n => 10 + ((included? files x).map fun inner =>
      scanSteps files levels inner + 5 * inner.length + 8).getD 0 + n) 5

/-- The part of it for the file that a line includes. -/
def includedSteps (files : FileSystem) : (levels : Nat) → Except Fault String → Nat
  | 0, _ => 0
  | levels + 1, x =>
    ((included? files x).map fun inner =>
      scanSteps files levels inner + 5 * inner.length + 8).getD 0

def fileSteps (files : FileSystem) (levels : Nat) (f : OpenFile) : Nat :=
  scanSteps files levels (untaken f) + threadSteps f

def stackSteps (files : FileSystem) (limit : Nat) : List OpenFile → Nat
  | [] => 0
  | f :: below => fileSteps files (limit - below.length) f + stackSteps files limit below

/-- The number of files that the scanning thread may still stack upon the root: none once it has
left its loop. -/
def depthLeft (t : Threads) : Nat :=
  match t.scanning with
  | .leaving | .awaiting | .ended => 0
  | _ => t.options.maxIncludeDepth

def placeSteps (t : Threads) : Nat :=
  match t.scanning with
  | .entering file =>
    fileSteps t.files (t.options.maxIncludeDepth - t.stack.length) file + 7
  | .acting text =>
    includedSteps t.files (t.options.maxIncludeDepth + 1 - t.stack.length) (.ok text) + 7
  | .offering _ => 6
  | .settling _ => 5
  | .checking => 4
  | .drawing => 3
  | .joining => 2
  | .leaving => 2
  | .awaiting => 1
  | .ended => 0

def clientSteps : ClientAt → Nat
  | .starting => 3
  | .receiving => 2
  | .joining => 1
  | .awaiting => 1
  | .idle => 0
  | .gone => 0

/-- A bound on the steps that a scan still takes while its consumer waits in a call. -/
def remainingSteps (t : Threads) : Nat :=
  stackSteps t.files (depthLeft t) t.stack + placeSteps t + clientSteps t.consumer

variable (files : FileSystem) {f g : OpenFile} {t u : Threads}

section Costs

lemma scanSteps_cons (levels : Nat) (x : Except Fault String) (lines : List (Except Fault String)) :
    scanSteps files levels (x :: lines) =
      10 + includedSteps files levels x + scanSteps files levels lines := by
  cases levels with
  | zero =>
    simp only [scanSteps, includedSteps, List.length_cons]
    omega
  | succ levels => rfl

variable {files} in
lemma includedSteps_of_included {x : Except Fault String} {inner : List (Except Fault String)}
    (h : included? files x = some inner) (levels : Nat) :
    includedSteps files (levels + 1) x =
      scanSteps files levels inner + 5 * inner.length + 8 := by
  rw [includedSteps, h]
  rfl

lemma scanSteps_zero_le (levels : Nat) (lines : List (Except Fault String)) :
    scanSteps files 0 lines ≤ scanSteps files levels lines := by
  induction lines with
  | nil => cases levels <;> exact le_rfl
  | cons x lines ih =>
    rw [scanSteps_cons, scanSteps_cons, includedSteps]
    omega

lemma five_le_scanSteps (levels : Nat) (lines : List (Except Fault String)) :
    5 ≤ scanSteps files levels lines := by
  have hle := scanSteps_zero_le files levels lines
  rw [scanSteps] at hle
  omega

lemma five_le_fileSteps (levels : Nat) (f : OpenFile) : 5 ≤ fileSteps files levels f := by
  have hle := five_le_scanSteps files levels (untaken f)
  rw [fileSteps]
  omega

lemma stackSteps_zero_le (limit : Nat) (stack : List OpenFile) :
    stackSteps files 0 stack ≤ stackSteps files limit stack := by
  induction stack with
  | nil => exact le_rfl
  | cons f below ih =>
    have hle := scanSteps_zero_le files (limit - below.length) (untaken f)
    simp only [stackSteps, fileSteps, Nat.zero_sub]
    omega

lemma stackSteps_concat (stack : List OpenFile) (f : OpenFile) :
    stackSteps files 0 (stack ++ [f]) = stackSteps files 0 stack + fileSteps files 0 f := by
  induction stack with
  | nil => simp [stackSteps]
  | cons g below ih =>
    rw [List.cons_append, stackSteps, stackSteps, ih]
    simp only [Nat.zero_sub]
    omega

variable {files} in
lemma stackSteps_replace_lt {limit : Nat} (above below : List OpenFile)
    (h : ∀ levels, fileSteps files levels g < fileSteps files levels f) :
    stackSteps files limit (above ++ g :: below) < stackSteps files limit (above ++ f :: below) := by
  induction above with
  | nil => exact Nat.add_lt_add_right (h _) _
  | cons k above ih =>
    simp only [List.cons_append, stackSteps, List.length_append, List.length_cons]
    omega

end Costs

section Decrease

lemma FileMove.fileSteps_lt (hmove : FileMove f g) (levels : Nat) :
    fileSteps files levels g < fileSteps files levels f := by
  cases hmove with
  | read x pending hpos hpending =>
    simp only [fileSteps, untaken, threadSteps, hpos, hpending, List.length_cons]
    omega
  | atEnd hpos =>
    simp only [fileSteps, untaken, threadSteps, hpos]
    omega
  | put x hpos =>
    simp only [fileSteps, untaken, threadSteps, hpos, Option.isSome_some, if_true]
    omega
  | refused x hpos =>
    simp only [fileSteps, untaken, threadSteps, hpos, scanSteps_cons]
    omega
  | settled x p hpos hp =>
    have hle : scanSteps files levels f.pending ≤ scanSteps files levels (untaken f) := by
      simp only [untaken, hpos]
      split
      · rw [scanSteps_cons]
        omega
      · exact le_rfl
    rcases hp with rfl | rfl
    · refine Nat.add_lt_add_of_le_of_lt hle ?_
      simp only [threadSteps, hpos]
      omega
    · refine Nat.add_lt_add_of_le_of_lt hle ?_
      simp only [threadSteps, hpos]
      omega
  | checked p hpos hp =>
    rcases hp with rfl | rfl
    · simp only [fileSteps, untaken, threadSteps, hpos]
      omega
    · simp only [fileSteps, untaken, threadSteps, hpos]
      omega
  | closed hpos =>
    simp only [fileSteps, untaken, threadSteps, hpos]
    omega

lemma fileSteps_release_lt (hpos : f.position = .leaving) (levels : Nat) :
    fileSteps files levels { f with position := .closing } < fileSteps files levels f := by
  simp only [fileSteps, untaken, threadSteps, hpos]
  omega

lemma fileSteps_taken (h : FileWired f) {x : Except Fault String} (hslot : f.out.slot = some x)
    (hpos : g.position = f.position) (hpending : g.pending = f.pending)
    (hout : g.out = { f.out with slot := none }) (levels : Nat) :
    fileSteps files levels f =
      fileSteps files levels g + includedSteps files levels x + 10 := by
  have hplace := h.slot x hslot
  simp only [fileSteps, untaken, threadSteps, hpos, hpending, hout, hplace, hslot,
    Option.isSome_some, Option.isSome_none, if_true, Bool.false_eq_true, if_false, scanSteps_cons]
  omega

lemma fileSteps_cancel (levels : Nat) :
    fileSteps files levels { f with out := f.out.cancel } = fileSteps files levels f :=
  rfl

/-- Leaving the loop ends all claims of the scanning thread on the files of its stack. -/
lemma remainingSteps_left_lt (hstack : u.stack = t.stack) (hpos : u.scanning = .leaving)
    (hfiles : u.files = t.files) (hplace : 2 < placeSteps t)
    (hclient : clientSteps u.consumer ≤ clientSteps t.consumer) :
    remainingSteps u < remainingSteps t := by
  have hle := stackSteps_zero_le t.files (depthLeft t) t.stack
  have hdepth : depthLeft u = 0 := by
    rw [depthLeft, hpos]
  have hplace' : placeSteps u = 2 := by
    rw [placeSteps, hpos]
  rw [remainingSteps, remainingSteps, hdepth, hplace', hfiles, hstack]
  omega

lemma ScanMove.remainingSteps_lt (hmove : ScanMove t u) (h : Wired t) :
    remainingSteps u < remainingSteps t := by
  cases hmove with
  | checked p hpos hp =>
    rcases hp with rfl | rfl
    · exact remainingSteps_left_lt rfl rfl rfl (by simp [placeSteps, hpos]) le_rfl
    · simp only [remainingSteps, depthLeft, placeSteps, hpos]
      omega
  | drawn top below text hpos hs hslot =>
    have htop := h.stack_wired top (hs ▸ List.mem_cons_self)
    have hlevels : t.options.maxIncludeDepth + 1 - (below.length + 1) =
        t.options.maxIncludeDepth - below.length := by omega
    have htaken := fileSteps_taken t.files htop hslot
      (g := { top with out := { top.out with slot := none }, linesRead := top.linesRead + 1 })
      rfl rfl rfl (t.options.maxIncludeDepth - below.length)
    dsimp only at htaken
    simp only [remainingSteps, depthLeft, placeSteps, hpos, hs, stackSteps, List.length_cons,
      hlevels]
    omega
  | failed top below fault e hpos hs hslot =>
    have htop := h.stack_wired top (hs ▸ List.mem_cons_self)
    have htaken := fileSteps_taken t.files htop hslot
      (g := { top with out := { top.out with slot := none } })
      rfl rfl rfl (t.options.maxIncludeDepth - below.length)
    dsimp only at htaken
    simp only [remainingSteps, depthLeft, placeSteps, hpos, hs, stackSteps]
    omega
  | met top below hpos hs _ =>
    simp only [remainingSteps, depthLeft, placeSteps, hpos]
    omega
  | returned top below p hpos hs _ hp =>
    have hfile := five_le_fileSteps t.files (t.options.maxIncludeDepth - below.length) top
    rcases hp with rfl | ⟨-, x, rfl⟩
    · have hle := stackSteps_zero_le t.files t.options.maxIncludeDepth below
      simp only [remainingSteps, depthLeft, placeSteps, hpos, hs, stackSteps]
      omega
    · simp only [remainingSteps, depthLeft, placeSteps, hpos, hs, stackSteps]
      omega
  | acted text x hpos =>
    simp only [remainingSteps, depthLeft, placeSteps, hpos]
    omega
  | opened text path inner hpos hinner hdeep =>
    have hlevels : t.options.maxIncludeDepth + 1 - t.stack.length =
        t.options.maxIncludeDepth - t.stack.length + 1 := by omega
    simp only [remainingSteps, depthLeft, placeSteps, hpos, hlevels,
      includedSteps_of_included hinner, fileSteps, untaken, threadSteps]
    omega
  | entered file x hpos =>
    simp only [remainingSteps, depthLeft, placeSteps, hpos, stackSteps]
    omega
  | put x hpos =>
    simp only [remainingSteps, depthLeft, placeSteps, hpos]
    omega
  | refused x hpos _ =>
    exact remainingSteps_left_lt rfl rfl rfl (by simp [placeSteps, hpos]) le_rfl
  | settled x p hpos _ hp =>
    rcases hp with rfl | rfl
    · exact remainingSteps_left_lt rfl rfl rfl (by simp [placeSteps, hpos]) le_rfl
    · simp only [remainingSteps, depthLeft, placeSteps, hpos]
      omega
  | gaveUp above file hpos hs =>
    simp only [remainingSteps, depthLeft, placeSteps, hpos, hs, stackSteps_concat,
      fileSteps_cancel]
    omega
  | awaited above file hpos hs _ =>
    have hfile := five_le_fileSteps t.files 0 file
    simp only [remainingSteps, depthLeft, placeSteps, hpos, hs, stackSteps_concat]
    omega
  | closed hpos hs =>
    simp only [remainingSteps, depthLeft, placeSteps, hpos]
    omega

lemma remainingSteps_replace_lt {above below : List OpenFile} (hs : t.stack = above ++ f :: below)
    (hs' : u.stack = above ++ g :: below) (hfiles : u.files = t.files)
    (hoptions : u.options = t.options) (hpos : u.scanning = t.scanning)
    (hconsumer : u.consumer = t.consumer)
    (h : ∀ levels, fileSteps t.files levels g < fileSteps t.files levels f) :
    remainingSteps u < remainingSteps t := by
  have hlength : u.stack.length = t.stack.length := by
    rw [hs, hs', List.length_append, List.length_append]
    rfl
  have hdepth : depthLeft u = depthLeft t := by
    rw [depthLeft, depthLeft, hpos, hoptions]
  have hplace : placeSteps u = placeSteps t := by
    rw [placeSteps, placeSteps, hpos, hfiles, hoptions, hlength]
  have hlt : stackSteps t.files (depthLeft t) u.stack < stackSteps t.files (depthLeft t) t.stack := by
    rw [hs, hs']
    exact stackSteps_replace_lt above below h
  rw [remainingSteps, remainingSteps, hdepth, hplace, hfiles, hconsumer]
  omega

lemma remainingSteps_lt (h : Wired t) (hidle : t.consumer ≠ .idle) (hstep : Threads.Step t u) :
    remainingSteps u < remainingSteps t := by
  cases hstep with
  | scan hscan => exact (scanMove_of_step hscan).remainingSteps_lt h
  | file above below hs hfile =>
    exact remainingSteps_replace_lt hs rfl rfl rfl rfl rfl
      ((fileMove_of_step hfile).fileSteps_lt t.files)
  | release above below f hs hpos =>
    exact remainingSteps_replace_lt hs rfl rfl rfl rfl rfl (fileSteps_release_lt t.files hpos)
  | notEntered file fault hpos _ =>
    simp only [remainingSteps, depthLeft, placeSteps, hpos, Threads.release]
    omega
  | rootNotEntered file hpos hstarting =>
    refine remainingSteps_left_lt rfl rfl rfl (by simp [placeSteps, hpos]) ?_
    simp [hstarting, Threads.abandon, clientSteps]
  | notStarted x hpos hstarting =>
    refine remainingSteps_left_lt rfl rfl rfl (by simp [placeSteps, hpos]) ?_
    simp [hstarting, Threads.abandon, clientSteps]
  | beginNext hpos _ => exact absurd hpos hidle
  | nextAtEnd hpos _ => exact absurd hpos hidle
  | letGo hpos => exact absurd hpos hidle
  | started hpos _ => exact Nat.add_lt_add_left (by simp [hpos, clientSteps]) _
  | take x out hpos _ _ => exact Nat.add_lt_add_left (by simp [hpos, clientSteps]) _
  | meetEnd e out hpos _ _ => exact Nat.add_lt_add_left (by simp [hpos, clientSteps]) _
  | join hpos _ => exact Nat.add_lt_add_left (by simp [hpos, clientSteps]) _
  | await hpos _ => exact Nat.add_lt_add_left (by simp [hpos, clientSteps]) _

end Decrease

section Calls

/-- Whatever steps are taken, a state of this kind comes, and up to then there is one to take. -/
inductive Inevitable (P : Threads → Prop) : Threads → Prop where
  | now (t : Threads) : P t → Inevitable P t
  | later (t : Threads) :
    (∃ u, Threads.Step t u) → (∀ u, Threads.Step t u → Inevitable P u) → Inevitable P t

lemma inevitable_of_call {P Q : Threads → Prop} (hcall : ∀ t, Q t → P t ∨
      t.consumer ≠ .idle ∧ t.consumer ≠ .gone ∧ ∀ u, Threads.Step t u → Q u)
    (t : Threads) (hw : Wired t) (ha : Attended t) (hq : Q t) : Inevitable P t := by
  rcases hcall t hq with hp | ⟨hidle, hgone, hstays⟩
  · exact .now t hp
  · refine .later t (exists_step_of_waits hw ha hidle hgone) fun u hstep => ?_
    have := remainingSteps_lt hw hidle hstep
    exact inevitable_of_call hcall u (wired_step hw ha hstep) (attended_step hw ha hstep)
      (hstays u hstep)
termination_by remainingSteps t

lemma consumer_step (hstep : Threads.Step t u) :
    u.consumer = t.consumer ∧ u.seen = t.seen ∨
    match t.consumer with
    | .starting => (u.consumer = .idle ∨ u.consumer = .awaiting) ∧ u.seen = t.seen
    | .receiving => u.consumer = .joining ∧ u.seen = t.seen ∨
        u.consumer = .idle ∧ ∃ d, u.seen = t.seen ++ [d]
    | .joining => u.consumer = .idle ∧ u.seen = t.seen ++ [none]
    | .awaiting => u.consumer = .gone
    | .idle => True
    | .gone => False := by
  cases hstep with
  | scan hscan =>
    obtain ⟨hconsumer, -, hseen, -⟩ := (scanMove_of_step hscan).frame
    exact .inl ⟨hconsumer, hseen⟩
  | file above below _ _ => exact .inl ⟨rfl, rfl⟩
  | release above below f _ _ => exact .inl ⟨rfl, rfl⟩
  | notEntered file fault _ _ => exact .inl ⟨rfl, rfl⟩
  | rootNotEntered file _ hpos =>
    rw [hpos]
    exact .inr ⟨.inr rfl, rfl⟩
  | notStarted x _ hpos =>
    rw [hpos]
    exact .inr ⟨.inr rfl, rfl⟩
  | started hpos _ =>
    rw [hpos]
    exact .inr ⟨.inl rfl, rfl⟩
  | beginNext hpos _ =>
    rw [hpos]
    exact .inr trivial
  | nextAtEnd hpos _ =>
    rw [hpos]
    exact .inr trivial
  | letGo hpos =>
    rw [hpos]
    exact .inr trivial
  | take x out hpos _ _ =>
    rw [hpos]
    exact .inr (.inr ⟨rfl, some x, rfl⟩)
  | meetEnd e out hpos _ _ =>
    rw [hpos]
    exact .inr (.inl ⟨rfl, rfl⟩)
  | join hpos _ =>
    rw [hpos]
    exact .inr ⟨rfl, rfl⟩
  | await hpos _ =>
    rw [hpos]
    exact .inr rfl

lemma inevitable_gone (hw : Wired t) (ha : Attended t) (hpos : t.consumer = .awaiting) :
    Inevitable (fun u => u.consumer = .gone) t := by
  refine inevitable_of_call (Q := fun u => u.consumer = .awaiting ∨ u.consumer = .gone) ?_ t hw ha
    (.inl hpos)
  rintro v (hv | hv)
  · refine .inr ⟨by simp [hv], by simp [hv], fun u hstep => ?_⟩
    have hto := consumer_step hstep
    rw [hv] at hto
    rcases hto with ⟨hsame, -⟩ | hgone
    · exact .inl hsame
    · exact .inr hgone
  · exact .inl hv

lemma inevitable_started (hw : Wired t) (ha : Attended t) (hpos : t.consumer = .starting) :
    Inevitable (fun u => u.consumer = .idle ∨ u.consumer = .gone) t := by
  refine inevitable_of_call (Q := fun u => u.consumer = .starting ∨ u.consumer = .awaiting ∨
    u.consumer = .idle ∨ u.consumer = .gone) ?_ t hw ha (.inl hpos)
  rintro v (hv | hv | hv)
  · refine .inr ⟨by simp [hv], by simp [hv], fun u hstep => ?_⟩
    have hto := consumer_step hstep
    rw [hv] at hto
    rcases hto with ⟨hsame, -⟩ | ⟨hidle | hawaiting, -⟩
    · exact .inl hsame
    · exact .inr (.inr (.inl hidle))
    · exact .inr (.inl hawaiting)
  · refine .inr ⟨by simp [hv], by simp [hv], fun u hstep => ?_⟩
    have hto := consumer_step hstep
    rw [hv] at hto
    rcases hto with ⟨hsame, -⟩ | hgone
    · exact .inr (.inl hsame)
    · exact .inr (.inr (.inr hgone))
  · exact .inl hv

lemma inevitable_drawn (hw : Wired t) (ha : Attended t) (hpos : t.consumer = .receiving) :
    Inevitable (fun u => u.consumer = .idle ∧ ∃ d, u.seen = t.seen ++ [d]) t := by
  refine inevitable_of_call (Q := fun u =>
    (u.consumer = .receiving ∨ u.consumer = .joining) ∧ u.seen = t.seen ∨
      u.consumer = .idle ∧ ∃ d, u.seen = t.seen ++ [d]) ?_ t hw ha (.inl ⟨.inl hpos, rfl⟩)
  rintro v (⟨hv | hv, hseen⟩ | hv)
  · refine .inr ⟨by simp [hv], by simp [hv], fun u hstep => ?_⟩
    have hto := consumer_step hstep
    rw [hv] at hto
    rcases hto with ⟨hsame, hseen'⟩ | ⟨hjoining, hseen'⟩ | ⟨hidle, d, hseen'⟩
    · exact .inl ⟨.inl hsame, hseen'.trans hseen⟩
    · exact .inl ⟨.inr hjoining, hseen'.trans hseen⟩
    · exact .inr ⟨hidle, d, by rw [hseen', hseen]⟩
  · refine .inr ⟨by simp [hv], by simp [hv], fun u hstep => ?_⟩
    have hto := consumer_step hstep
    rw [hv] at hto
    rcases hto with ⟨hsame, hseen'⟩ | ⟨hidle, hseen'⟩
    · exact .inl ⟨.inr hsame, hseen'.trans hseen⟩
    · exact .inr ⟨hidle, none, by rw [hseen', hseen]⟩
  · exact .inl hv

end Calls

end SourceSplice.Proofs
