import SourceSplice.Proofs.ScanThreadTermination
/-!
# Every reader is released

At any time the readers of a scan that were not let go are those of the files that are open or being
opened and whose threads still have them. `Accounted` is the invariant: opening a file adds one to
both sides, a thread that lets go of its reader takes one from both, and every other step leaves
both alone. At the end of a scan no file is left, so every reader has been let go, once.
-/

namespace SourceSplice.Proofs
open Scanner

def hasReader (f : OpenFile) : Bool :=
  match f.position with
  | .closing | .ended => false
  | _ => true

/-- The readers of these files that were not let go. -/
def readersOf (fs : List OpenFile) : List Nat :=
  (fs.filter hasReader).map OpenFile.reader

/-- The open readers are those of the files, and with those that were let go they make up all that
the scan has opened. -/
structure Accounted (before : Nat) (t : Threads) : Prop where
  count : t.openReaders = before + (readersOf (held t)).length
  readers : (t.released ++ readersOf (held t)).Perm (List.range t.opened)
  entering : ∀ f ∈ entered t.scanning, hasReader f = true

variable {before : Nat} {f g : OpenFile} {t u : Threads}

section Readers

lemma readersOf_append (fs gs : List OpenFile) :
    readersOf (fs ++ gs) = readersOf fs ++ readersOf gs := by
  simp only [readersOf, List.filter_append, List.map_append]

lemma readersOf_cons (f : OpenFile) (fs : List OpenFile) :
    readersOf (f :: fs) = readersOf [f] ++ readersOf fs :=
  readersOf_append [f] fs

lemma readersOf_open (h : hasReader f = true) : readersOf [f] = [f.reader] := by
  simp [readersOf, h]

lemma readersOf_closed (h : hasReader f = false) : readersOf [f] = [] := by
  simp [readersOf, h]

lemma readersOf_congr (hreader : g.reader = f.reader) (hhas : hasReader g = hasReader f) :
    readersOf [g] = readersOf [f] := by
  by_cases h : hasReader f = true
  · rw [readersOf_open (hhas.trans h), readersOf_open h, hreader]
  · rw [Bool.not_eq_true] at h
    rw [readersOf_closed (hhas.trans h), readersOf_closed h]

lemma readersOf_length_le (fs : List OpenFile) : (readersOf fs).length ≤ fs.length := by
  rw [readersOf, List.length_map]
  exact List.length_filter_le hasReader fs

lemma hasReader_of_ended (h : f.position = .ended) : hasReader f = false := by
  rw [hasReader, h]

lemma FileMove.readersOf_eq (hmove : FileMove f g) : readersOf [g] = readersOf [f] := by
  cases hmove with
  | read x pending hpos _ => exact readersOf_congr rfl (by rw [hasReader, hasReader, hpos])
  | atEnd hpos => exact readersOf_congr rfl (by rw [hasReader, hasReader, hpos])
  | put x hpos => exact readersOf_congr rfl (by rw [hasReader, hasReader, hpos])
  | refused x hpos => exact readersOf_congr rfl (by rw [hasReader, hasReader, hpos])
  | settled x p hpos hp =>
    rcases hp with rfl | rfl <;> exact readersOf_congr rfl (by rw [hasReader, hasReader, hpos])
  | checked p hpos hp =>
    rcases hp with rfl | rfl <;> exact readersOf_congr rfl (by rw [hasReader, hasReader, hpos])
  | closed hpos => exact readersOf_congr rfl (by rw [hasReader, hasReader, hpos])

lemma length_held (t : Threads) : (held t).length = t.heldFiles := by
  rw [held, List.length_append, Threads.heldFiles, Nat.add_comm]
  cases t.scanning <;> rfl

end Readers

section Accounts

lemma Accounted.congr (h : Accounted before t) (hheld : readersOf (held u) = readersOf (held t))
    (hopen : u.openReaders = t.openReaders) (hopened : u.opened = t.opened)
    (hreleased : u.released = t.released)
    (hentering : ∀ f ∈ entered u.scanning, hasReader f = true) : Accounted before u := by
  refine ⟨?_, ?_, hentering⟩
  · rw [hopen, hheld, h.count]
  · rw [hreleased, hheld, hopened]
    exact h.readers

lemma held_eq_stack (h : entered t.scanning = []) : held t = t.stack := by
  rw [held, h]
  rfl

/-- A step at which no file is opened or left. -/
lemma Accounted.goTo (h : Accounted before t) (hplace : entered t.scanning = [])
    (hplace' : entered u.scanning = []) (hstack : readersOf u.stack = readersOf t.stack)
    (hopen : u.openReaders = t.openReaders) (hopened : u.opened = t.opened)
    (hreleased : u.released = t.released) : Accounted before u := by
  refine h.congr ?_ hopen hopened hreleased ?_
  · rw [held_eq_stack hplace, held_eq_stack hplace', hstack]
  · rw [hplace']
    exact List.forall_mem_nil _

lemma Accounted.release (h : Accounted before t) {reader : Nat} {above below : List Nat}
    (hheld : readersOf (held t) = above ++ reader :: below)
    (hheld' : readersOf (held u) = above ++ below) (hopen : u.openReaders = t.openReaders - 1)
    (hopened : u.opened = t.opened) (hreleased : u.released = t.released ++ [reader])
    (hentering : ∀ f ∈ entered u.scanning, hasReader f = true) : Accounted before u := by
  refine ⟨?_, ?_, hentering⟩
  · have hcount := h.count
    rw [hheld, List.length_append, List.length_cons] at hcount
    rw [hopen, hheld', List.length_append]
    omega
  · have hperm := h.readers
    have hmiddle : (above ++ reader :: below).Perm (reader :: (above ++ below)) := List.perm_middle
    rw [hheld] at hperm
    rw [hreleased, hheld', hopened, List.append_assoc]
    exact (List.Perm.append_left _ hmiddle.symm).trans hperm

lemma Accounted.notEntered (h : Accounted before t) {file : OpenFile}
    (hpos : t.scanning = .entering file) (hplace : entered u.scanning = [])
    (hstack : u.stack = t.stack) (hopen : u.openReaders = t.openReaders - 1)
    (hopened : u.opened = t.opened) (hreleased : u.released = t.released ++ [file.reader]) :
    Accounted before u := by
  have hfile := h.entering file (by rw [hpos]; exact List.mem_singleton_self file)
  have hheld : readersOf (held t) = [] ++ file.reader :: readersOf t.stack := by
    rw [held, hpos]
    exact (readersOf_cons file t.stack).trans (by rw [readersOf_open hfile]; rfl)
  refine h.release hheld ?_ hopen hopened hreleased ?_
  · rw [held_eq_stack hplace, hstack]
    rfl
  · rw [hplace]
    exact List.forall_mem_nil _

lemma Accounted.opens (h : Accounted before t) {file : OpenFile} (hplace : entered t.scanning = [])
    (hpos : u.scanning = .entering file) (hreader : file.reader = t.opened)
    (hfile : hasReader file = true) (hstack : u.stack = t.stack)
    (hopen : u.openReaders = t.openReaders + 1) (hopened : u.opened = t.opened + 1)
    (hreleased : u.released = t.released) : Accounted before u := by
  have hheld : readersOf (held u) = t.opened :: readersOf (held t) := by
    rw [held_eq_stack hplace, held, hpos, hstack, ← hreader]
    exact (readersOf_cons file t.stack).trans (by rw [readersOf_open hfile]; rfl)
  refine ⟨?_, ?_, fun f hf => ?_⟩
  · rw [hopen, hheld, List.length_cons, h.count, Nat.add_assoc]
  · rw [hreleased, hheld, hopened, List.range_succ]
    refine List.perm_middle.trans ?_
    exact (List.Perm.cons _ h.readers).trans (List.perm_append_singleton _ _).symm
  · rw [hpos] at hf
    rwa [List.mem_singleton.mp hf]

lemma ScanMove.accounted (hmove : ScanMove t u) (h : Accounted before t) : Accounted before u := by
  cases hmove with
  | checked p hpos hp =>
    rcases hp with rfl | rfl <;> exact h.goTo (by rw [hpos]; rfl) rfl rfl rfl rfl rfl
  | drawn top below text hpos hs _ =>
    refine h.goTo (by rw [hpos]; rfl) rfl ?_ rfl rfl rfl
    rw [hs, readersOf_cons, readersOf_cons top]
    exact congrArg (· ++ readersOf below) (readersOf_congr rfl rfl)
  | failed top below fault e hpos hs _ =>
    refine h.goTo (by rw [hpos]; rfl) rfl ?_ rfl rfl rfl
    rw [hs, readersOf_cons, readersOf_cons top]
    exact congrArg (· ++ readersOf below) (readersOf_congr rfl rfl)
  | met top below hpos _ _ => exact h.goTo (by rw [hpos]; rfl) rfl rfl rfl rfl rfl
  | returned top below p hpos hs hended hp =>
    have hstack : readersOf below = readersOf t.stack := by
      rw [hs, readersOf_cons, readersOf_closed (hasReader_of_ended hended)]
      rfl
    rcases hp with rfl | ⟨-, x, rfl⟩
    · exact h.goTo (by rw [hpos]; rfl) rfl hstack rfl rfl rfl
    · exact h.goTo (by rw [hpos]; rfl) rfl hstack rfl rfl rfl
  | acted text x hpos => exact h.goTo (by rw [hpos]; rfl) rfl rfl rfl rfl rfl
  | opened text path inner hpos _ _ =>
    exact h.opens (by rw [hpos]; rfl) rfl rfl rfl rfl rfl rfl rfl
  | entered file x hpos =>
    refine h.congr ?_ rfl rfl rfl (List.forall_mem_nil _)
    rw [held, held, hpos]
    rfl
  | put x hpos => exact h.goTo (by rw [hpos]; rfl) rfl rfl rfl rfl rfl
  | refused x hpos _ => exact h.goTo (by rw [hpos]; rfl) rfl rfl rfl rfl rfl
  | settled x p hpos _ hp =>
    rcases hp with rfl | rfl <;> exact h.goTo (by rw [hpos]; rfl) rfl rfl rfl rfl rfl
  | gaveUp above file hpos hs =>
    refine h.goTo (by rw [hpos]; rfl) rfl ?_ rfl rfl rfl
    rw [hs, readersOf_append, readersOf_append]
    exact congrArg (readersOf above ++ ·) (readersOf_congr rfl rfl)
  | awaited above file hpos hs hended =>
    refine h.goTo (by rw [hpos]; rfl) rfl ?_ rfl rfl rfl
    rw [hs, readersOf_append, readersOf_closed (hasReader_of_ended hended), List.append_nil]
  | closed hpos _ => exact h.goTo (by rw [hpos]; rfl) rfl rfl rfl rfl rfl

lemma accounted_step (h : Accounted before t) (hstep : Threads.Step t u) :
    Accounted before u := by
  cases hstep with
  | scan hscan => exact (scanMove_of_step hscan).accounted h
  | @file above below f g hs hfile =>
    have hmove := fileMove_of_step hfile
    refine h.congr ?_ rfl rfl rfl h.entering
    have hstack : readersOf (g :: below) = readersOf (f :: below) := by
      rw [readersOf_cons g, readersOf_cons f, hmove.readersOf_eq]
    rw [held, held, hs]
    simp only [readersOf_append, hstack]
  | release above below f hs hpos =>
    have hfile : hasReader f = true := by
      rw [hasReader, hpos]
    have hheld : readersOf (held t) =
        (readersOf (entered t.scanning) ++ readersOf above) ++ f.reader :: readersOf below := by
      rw [held, hs, readersOf_append, readersOf_append, readersOf_cons, readersOf_open hfile]
      simp only [List.append_assoc, List.cons_append, List.nil_append]
    refine h.release hheld ?_ rfl rfl rfl h.entering
    rw [held, readersOf_append, readersOf_append, readersOf_cons, readersOf_closed rfl]
    simp only [List.append_assoc, List.nil_append]
    rfl
  | notEntered file fault hpos _ => exact h.notEntered hpos rfl rfl rfl rfl rfl
  | rootNotEntered file hpos _ => exact h.notEntered hpos rfl rfl rfl rfl rfl
  | notStarted x hpos _ => exact h.goTo (by rw [hpos]; rfl) rfl rfl rfl rfl rfl
  | _ => exact h.congr rfl rfl rfl rfl h.entering

end Accounts

/-- What a scan owes to whoever counts the open readers, of which there were so many before it. -/
structure Releases (before : Nat) (t : Threads) : Prop where
  /-- The readers that the scan has opened and not let go are counted beside the others. -/
  count_eq : t.openReaders + t.released.length = before + t.opened
  /-- No more readers of it are open than files, and the others stay open. -/
  open_le : before ≤ t.openReaders ∧ t.openReaders ≤ before + t.heldFiles
  /-- No reader is let go twice, and none that it has not opened. -/
  released_once : t.released.Nodup ∧ ∀ reader ∈ t.released, reader < t.opened
  /-- Once the consumer has met the end, has let go or has failed to start the scan, all readers are
  let go. -/
  all_released : t.consumer = .gone ∨ none ∈ t.seen →
    t.openReaders = before ∧ t.released.Perm (List.range t.opened)
  /-- The call that starts the scan returns, -/
  start_returns : t.consumer = .starting →
    Inevitable (fun u => u.consumer = .idle ∨ u.consumer = .gone) t
  /-- and so does every draw, -/
  draw_returns : t.consumer = .receiving →
    Inevitable (fun u => u.consumer = .idle ∧ ∃ d, u.seen = t.seen ++ [d]) t
  /-- and letting go. -/
  drop_returns : t.consumer = .awaiting → Inevitable (fun u => u.consumer = .gone) t

lemma accounted_start {files : FileSystem} {options : ScanOptions} {root : String} {n : Nat}
    (h : Threads.start files options root before = (.ok t, n)) : Accounted before t := by
  obtain ⟨pending, -, rfl⟩ := start_ok h
  exact ⟨rfl, List.Perm.refl _, fun f hf => List.mem_singleton.mp hf ▸ rfl⟩

lemma accounted_reaches (h : Accounted before t) (hrun : Threads.Reaches t u) :
    Accounted before u := by
  induction hrun with
  | refl => exact h
  | step _ hstep ih => exact accounted_step ih hstep

lemma Accounted.all_released (h : Accounted before t) (hw : Wired t)
    (hended : t.scanning = .ended) :
    t.openReaders = before ∧ t.released.Perm (List.range t.opened) := by
  have hnone : readersOf (held t) = [] := by
    rw [held, hended, hw.ended hended]
    rfl
  refine ⟨?_, ?_⟩
  · rw [h.count, hnone]
    rfl
  · have hperm := h.readers
    rwa [hnone, List.append_nil] at hperm

/-- Every reader that a scan opens is let go, once: if the root does not open none is open, and else
none is left when the call that starts the scan fails, when a draw meets the end, or when the
consumer has let go, whenever it does so and in whatever order the threads take their steps. -/
theorem scan_releases_readers (files : FileSystem) (options : ScanOptions) (root : String)
    (before : Nat) :
    (∀ e n, Threads.start files options root before = (.error e, n) → n = before) ∧
      ∀ t n, Threads.start files options root before = (.ok t, n) →
        n = t.openReaders ∧ ∀ u, Threads.Reaches t u → Releases before u := by
  refine ⟨fun e n h => start_error h, fun t n h => ⟨?_, fun u hrun => ?_⟩⟩
  · obtain ⟨pending, rfl, rfl⟩ := start_ok h
    rfl
  · obtain ⟨hw, ha⟩ := wired_reaches (wired_start h) hrun
    have hacc := accounted_reaches (accounted_start h) hrun
    have hnodup : (u.released ++ readersOf (held u)).Nodup :=
      hacc.readers.nodup_iff.mpr List.nodup_range
    have hlength := hacc.readers.length_eq
    rw [List.length_append, List.length_range] at hlength
    refine ⟨?_, ⟨?_, ?_⟩, ⟨hnodup.of_append_left, fun reader hr => ?_⟩, fun hover => ?_,
      inevitable_started hw ha, inevitable_drawn hw ha, inevitable_gone hw ha⟩
    · rw [hacc.count]
      omega
    · rw [hacc.count]
      exact Nat.le_add_right _ _
    · have hle := readersOf_length_le (held u)
      rw [length_held] at hle
      rw [hacc.count]
      omega
    · exact List.mem_range.mp (hacc.readers.subset (List.mem_append_left _ hr))
    · refine hacc.all_released hw (ha.ended ?_)
      rcases hover with hgone | hseen
      · exact .inr (.inl hgone)
      · exact .inr (.inr (.inr hseen))

/-- Two files, the first of which includes the second, and three readers that are open already. -/
def nestedFiles : MemoryStore where
  files := [("a", utf8Bytes "#include \"b\""), ("b", utf8Bytes "x")]
  openReaders := 3

/-- A scan of the first of them, of which the thread has not started. -/
def nestedScan : Threads where
  files := nestedFiles.fileSystem
  options := {}
  stack := []
  scanning := .entering { path := "a", reader := 0, pending := [.ok "#include \"b\""] }
  openReaders := 4
  opened := 1

lemma act_nested (hfiles : t.files = nestedFiles.fileSystem) (hoptions : t.options = {})
    (hstack : t.stack.map OpenFile.path = ["a"]) (top : OpenFile) :
    t.act "#include \"b\"" top =
      { t with
        scanning := .entering { path := "b", reader := t.opened, pending := [.ok "x"] }
        openReaders := t.openReaders + 1
        opened := t.opened + 1 } := by
  have hparse : Directive.parse "#include \"b\"" = .ok (.inclusion "b") := by
    decide +kernel
  have hinner : nestedFiles.fileSystem.outcomes "b" = .ok [.ok "x"] := by
    decide +kernel
  have hlength : t.stack.length = 1 := by
    rw [← List.length_map (f := OpenFile.path), hstack]
    rfl
  simp [Threads.act, hparse, Threads.enter, hoptions, hstack, hlength, openCounted, hfiles, hinner]

/-- The consumer lets go in the middle of the included file, while both readers are open. -/
theorem scan_releases_readers_nested :
    ∃ u, Threads.start nestedFiles.fileSystem {} "a" nestedFiles.openReaders = (.ok nestedScan, 4) ∧
      Threads.Reaches nestedScan u ∧ u.stack.map OpenFile.path = ["b", "a"] ∧
      u.consumer = .awaiting ∧ u.openReaders = 5 ∧ Releases 3 u := by
  have hstart : Threads.start nestedFiles.fileSystem {} "a" nestedFiles.openReaders =
      (.ok nestedScan, 4) := start_of_opened (by decide +kernel)
  have hstarted := ((Threads.Reaches.refl nestedScan).step (.scan (.enter _ _ rfl))).step
    (.started _ rfl nofun)
  have hdrawn := (((((((hstarted.step (.scan (.offer _ _ rfl rfl))).step
    (.beginNext _ rfl rfl)).step (.take _ _ _ rfl rfl rfl)).step
    (.scan (.settle _ _ rfl rfl))).step (.scan (.check _ rfl))).step
    (.file _ [] [] rfl (.read _ rfl))).step (.file _ [] [] rfl (.offer _ _ rfl rfl))).step
    (.scan (.draw _ _ [] rfl rfl rfl))
  have hacted := hdrawn.step (.scan (.act _ "#include \"b\"" _ _ rfl rfl))
  rw [act_nested rfl rfl rfl] at hacted
  have hgone := (hacted.step (.scan (.enter _ _ rfl))).step (.letGo _ rfl)
  exact ⟨_, hstart, hgone, rfl, rfl, rfl,
    ((scan_releases_readers nestedFiles.fileSystem {} "a" 3).2 _ _ hstart).2 _ hgone⟩

end SourceSplice.Proofs
