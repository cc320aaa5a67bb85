import SourceSplice.Event.Replay
import SourceSplice.Proofs.ScanSteps
/-!
# The events of a scan tell where it is

A change of file does not say whether the file is entered or returned to. With the check for cycles
it need not: a file that is entered is not on the stack, so a change to the file below the current one
is a return. Replaying the events recovers the stack of the scanner, and in each activation the count
of what went by is the number of its lines that are behind the scan. Without the check, what the events
alone cannot tell is the number of files that are open behind them.
-/

namespace SourceSplice.Scanner

/-- The files that a scan is in the middle of after so many draws, each with what went by in it. -/
def activations (s : Scanner) : Nat → List Activation
  | 0 => []
  | k + 1 =>
    match (Feed.after s k).next with
    | (some (.ok e), t) => Activation.follow t.stack.length (activations s k) e
    | _ => activations s k

end SourceSplice.Scanner

namespace SourceSplice.Proofs

/-- An activation stands for an open file of which so many lines are behind the scan, with all others
still to be read. -/
structure Tracks (files : FileSystem) (a : Activation) (h : FileHandle) : Prop where
  path : a.path = h.path
  linesRead : a.linesRead = h.currentLine
  pending : ∃ lines, files.outcomes h.path = .ok lines ∧ h.pending = lines.drop h.currentLine

variable {files : FileSystem} {a : Activation} {acts : List Activation} {top : FileHandle}
  {text : String} {pending : List (Except Fault String)} {s t : Scanner} {e : Event}

lemma Tracks.lineRead {b : Activation} (h : Tracks files a top)
    (hpending : top.pending = .ok text :: pending) (hpath : b.path = a.path)
    (hread : b.linesRead = a.linesRead + 1) : Tracks files b (lineRead top pending) := by
  obtain ⟨lines, hlines, hrest⟩ := h.pending
  refine ⟨hpath.trans h.path, hread.trans (congrArg (· + 1) h.linesRead), lines, hlines, ?_⟩
  rw [Proofs.lineRead, ← List.drop_drop, ← hrest, hpending]
  rfl

lemma Tracks.getElem?_linesRead (h : Tracks files a top)
    (hpending : top.pending = .ok text :: pending) :
    ∃ lines, files.outcomes a.path = .ok lines ∧ lines[a.linesRead]? = some (.ok text) := by
  obtain ⟨lines, hlines, hrest⟩ := h.pending
  refine ⟨lines, h.path ▸ hlines, ?_⟩
  rw [h.linesRead, ← List.head?_drop, ← hrest, hpending]
  rfl

lemma map_path_of_tracks {stack : List FileHandle} (h : List.Forall₂ (Tracks files) acts stack) :
    acts.map Activation.path = stack.map FileHandle.path := by
  induction h with
  | nil => rfl
  | cons hhead _ ih => rw [List.map_cons, List.map_cons, hhead.path, ih]

lemma change_of_notMem {target : String} (hfresh : target ∉ acts.map Activation.path) :
    Activation.change target (a :: acts) = Activation.enter target (a :: acts) := by
  cases acts with
  | nil => rfl
  | cons parent acts =>
    have hne : parent.path ≠ target := fun heq => hfresh (heq ▸ List.mem_cons_self)
    rw [Activation.change, if_neg hne]
    rfl

/-- What replaying has recovered when a scan is in this state. -/
inductive Recovers (files : FileSystem) (s : Scanner) : List Activation → Prop where
  | start (path : String) (lines : List (Except Fault String)) :
    s.entered = false → files.outcomes path = .ok lines → s.stack = [{ path, pending := lines }] →
      Recovers files s []
  | under (acts : List Activation) :
    s.entered = true → List.Forall₂ (Tracks files) acts s.stack → Recovers files s acts

lemma Recovers.tracks (h : Recovers files s acts) (hentered : s.entered = true) :
    List.Forall₂ (Tracks files) acts s.stack := by
  cases h with
  | start _ _ hentered' => cases hentered'.symm.trans hentered
  | under _ _ htracks => exact htracks

/-- The number of open files tells an entry from a return. -/
lemma Recovers.follow (hfiles : s.files = files) (h : Recovers files s acts)
    (hadv : Advances s (some (.ok e)) t) :
    t.entered = true ∧
      List.Forall₂ (Tracks files) (Activation.follow t.stack.length acts e) t.stack := by
  cases hadv with
  | opens top below hstack hentered =>
    cases h with
    | start path lines _ hlines hstack' =>
      obtain ⟨rfl, rfl⟩ := List.cons.inj (hstack'.symm.trans hstack)
      refine ⟨rfl, ?_⟩
      simp only [hstack']
      exact .cons ⟨rfl, rfl, lines, hlines, rfl⟩ .nil
    | under _ hentered' => cases hentered.symm.trans hentered'
  | returns top parent below hstack hentered =>
    have htracks := h.tracks hentered
    have hlength := htracks.length_eq
    rw [hstack, List.length_cons, List.length_cons] at hlength
    rw [hstack] at htracks
    refine ⟨hentered, ?_⟩
    rw [Activation.follow, if_neg (by simp only [List.length_cons]; omega)]
    cases htracks with
    | cons _ hbelow => exact hbelow
  | reads top below text pending hstack hentered hpending =>
    have htracks := h.tracks hentered
    rw [hstack] at htracks
    cases htracks with
    | cons htop hbelow =>
      refine ⟨hentered, .cons (htop.lineRead hpending rfl ?_) hbelow⟩
      simp only [Activation.linesRead]
      omega
  | enters top below text target pending lines hstack hentered hpending _ _ _ hlines =>
    have htracks := h.tracks hentered
    have hlength := htracks.length_eq
    rw [hstack, List.length_cons] at hlength
    rw [hstack] at htracks
    rw [hfiles] at hlines
    refine ⟨hentered, ?_⟩
    rw [Activation.follow, if_pos (by simp only [List.length_cons]; omega)]
    cases htracks with
    | cons htop hbelow =>
      exact .cons ⟨rfl, rfl, lines, hlines, rfl⟩ (.cons (htop.lineRead hpending rfl rfl) hbelow)

/-- With the check for cycles the events tell it by themselves. -/
lemma Recovers.replay_eq_follow (hdetect : s.options.detectCycles = true)
    (h : Recovers files s acts) (hadv : Advances s (some (.ok e)) t) :
    Activation.replay acts e = Activation.follow t.stack.length acts e := by
  cases hadv with
  | opens top below hstack hentered =>
    cases h with
    | start =>
      rw [hstack]
      rfl
    | under _ hentered' => cases hentered.symm.trans hentered'
  | returns top parent below hstack hentered =>
    have htracks := h.tracks hentered
    have hlength := htracks.length_eq
    rw [hstack, List.length_cons, List.length_cons] at hlength
    rw [hstack] at htracks
    rw [Activation.follow, if_neg (by simp only [List.length_cons]; omega)]
    cases htracks with
    | cons _ htracks =>
      cases htracks with
      | cons hparent _ =>
        rw [Activation.replay, Activation.change, if_pos hparent.path]
        rfl
  | reads => rfl
  | enters top below text target pending lines hstack hentered _ _ hcycle =>
    have htracks := h.tracks hentered
    have hlength := htracks.length_eq
    have hfresh : target ∉ s.stack.map FileHandle.path := fun hmem => hcycle ⟨hdetect, hmem⟩
    rw [hstack, List.length_cons] at hlength
    rw [hstack] at htracks hfresh
    rw [Activation.follow, if_pos (by simp only [List.length_cons]; omega)]
    cases htracks with
    | @cons a _ acts _ _ hbelow =>
      apply change_of_notMem
      rw [map_path_of_tracks hbelow]
      exact fun hmem => hfresh (List.mem_cons_of_mem _ hmem)

lemma Recovers.step (hfiles : s.files = files) (hdetect : s.options.detectCycles = true)
    (h : Recovers files s acts) (hadv : Advances s (some (.ok e)) t) :
    t.entered = true ∧ List.Forall₂ (Tracks files) (Activation.replay acts e) t.stack := by
  rw [h.replay_eq_follow hdetect hadv]
  exact h.follow hfiles hadv

lemma Recovers.line {n : Nat} (h : Recovers files s acts)
    (hadv : Advances s (some (.ok (.line text n))) t) :
    ∃ current below lines, acts = current :: below ∧ n = 1 + current.lines + current.children ∧
      files.outcomes current.path = .ok lines ∧ lines[n - 1]? = some (.ok text) := by
  cases hadv with
  | reads top below text pending hstack hentered hpending =>
    cases h with
    | start _ _ hentered' => cases hentered'.symm.trans hentered
    | under acts _ htracks =>
      rw [hstack] at htracks
      cases htracks with
      | @cons current _ acts _ htop _ =>
        obtain ⟨lines, hlines, hline⟩ := htop.getElem?_linesRead hpending
        have hread := htop.linesRead
        refine ⟨current, acts, lines, rfl, ?_, hlines, ?_⟩
        · rw [← hread, Activation.linesRead]
          omega
        · rw [← hread]
          exact hline

lemma replayAll_concat (events : List Event) (e : Event) :
    Activation.replayAll (events ++ [e]) = Activation.replay (Activation.replayAll events) e :=
  List.foldl_concat ..

section Scan

variable {options : ScanOptions} {root : String} {events : List Event}

lemma advances_of_isPrefix (hrun : (events ++ [e]).map .ok <+: s.items) :
    Advances (Feed.after s events.length) (some (.ok e)) (Feed.after s (events.length + 1)) := by
  obtain ⟨after, hitems⟩ := hrun
  have hadv := advances_next (Feed.after s events.length)
  have hnext : (Feed.after s events.length).next.1 = some (.ok e) := by
    rw [← getElem?_items, ← hitems, List.map_append, List.append_assoc,
      List.getElem?_append_right (List.length_map _).le, List.length_map, Nat.sub_self]
    rfl
  rwa [hnext, ← after_succ] at hadv

lemma isPrefix_of_concat (hrun : (events ++ [e]).map .ok <+: s.items) :
    events.map .ok <+: s.items := by
  rw [List.map_append] at hrun
  exact (List.prefix_append _ _).trans hrun

lemma activations_concat (hrun : (events ++ [e]).map .ok <+: s.items) :
    s.activations (events ++ [e]).length =
      Activation.follow (Feed.after s (events.length + 1)).stack.length
        (s.activations events.length) e := by
  rw [List.length_append, List.length_singleton, Scanner.activations,
    (advances_of_isPrefix hrun).next_eq]

lemma recovers_activations (h : Scanner.openRoot files options root = .ok s)
    (hrun : events.map .ok <+: s.items) :
    Recovers files (Feed.after s events.length) (s.activations events.length) := by
  obtain ⟨lines, hlines, hs⟩ := eq_of_openRoot h
  have hfiles : ∀ k, (Feed.after s k).files = files := fun k => by rw [files_after, hs]
  induction events using List.reverseRecOn with
  | nil => exact hs ▸ .start root lines rfl hlines rfl
  | append_singleton events e ih =>
    obtain ⟨hentered, htracks⟩ :=
      (ih (isPrefix_of_concat hrun)).follow (hfiles _) (advances_of_isPrefix hrun)
    rw [activations_concat hrun, List.length_append, List.length_singleton]
    exact .under _ hentered htracks

lemma replayAll_eq_activations (hdetect : options.detectCycles = true)
    (h : Scanner.openRoot files options root = .ok s) (hrun : events.map .ok <+: s.items) :
    Activation.replayAll events = s.activations events.length := by
  have hdetect' : ∀ k, (Feed.after s k).options.detectCycles = true := by
    intro k
    obtain ⟨lines, -, hs⟩ := eq_of_openRoot h
    rw [options_after, hs, hdetect]
  induction events using List.reverseRecOn with
  | nil => rfl
  | append_singleton events e ih =>
    have hbefore := recovers_activations h (isPrefix_of_concat hrun)
    rw [replayAll_concat, ih (isPrefix_of_concat hrun), activations_concat hrun]
    exact hbefore.replay_eq_follow (hdetect' _) (advances_of_isPrefix hrun)

lemma recovers_after (hdetect : options.detectCycles = true)
    (h : Scanner.openRoot files options root = .ok s) (hrun : events.map .ok <+: s.items) :
    Recovers files (Feed.after s events.length) (Activation.replayAll events) := by
  rw [replayAll_eq_activations hdetect h hrun]
  exact recovers_activations h hrun

/-- After every event of a scan that checks for cycles, replaying the events so far gives the stack of
the scanner. In the file on top of it, a line has the number of those that were read and of the files
that were entered from there, plus one, and it is the line of the file at that place. -/
theorem replay_recovers_stack (files : FileSystem) (options : ScanOptions) (root : String)
    (s : Scanner) (hdetect : options.detectCycles = true)
    (h : Scanner.openRoot files options root = .ok s) (before : List Event) (e : Event)
    (hrun : (before ++ [e]).map .ok <+: s.items) :
    (Activation.replayAll (before ++ [e])).map Activation.path =
        (Feed.after s (before.length + 1)).stack.map FileHandle.path ∧
      ∀ text n, e = .line text n → ∃ current below lines,
        Activation.replayAll before = current :: below ∧
        n = 1 + current.lines + current.children ∧
        files.outcomes current.path = .ok lines ∧ lines[n - 1]? = some (.ok text) := by
  have hbefore := recovers_after hdetect h (isPrefix_of_concat hrun)
  have hadv := advances_of_isPrefix hrun
  obtain ⟨lines, hlines, hs⟩ := eq_of_openRoot h
  constructor
  · obtain ⟨-, htracks⟩ := hbefore.step (by rw [files_after, hs])
      (by rw [options_after, hs, hdetect]) hadv
    rw [replayAll_concat]
    exact map_path_of_tracks htracks
  · rintro text n rfl
    exact hbefore.line hadv

theorem replay_recovers_stack_including :
    ∃ s, Scanner.openRoot includingFiles {} "a" = .ok s ∧
      s.items = [.ok (.fileChange "a"), .ok (.fileChange "b"), .ok (.line "y" 1),
        .ok (.fileChange "a"), .ok (.line "x" 2)] ∧
      (Feed.after s 5).stack.map FileHandle.path = ["a"] ∧
      ∃ current below lines, current.path = "a" ∧
        Activation.replayAll [.fileChange "a", .fileChange "b", .line "y" 1, .fileChange "a"] =
          current :: below ∧
        2 = 1 + current.lines + current.children ∧
        includingFiles.outcomes "a" = .ok lines ∧ lines[1]? = some (.ok "x") := by
  obtain ⟨s, hs⟩ : ∃ s, Scanner.openRoot includingFiles {} "a" = .ok s := ⟨_, rfl⟩
  have hitems := items_includingFiles hs
  obtain ⟨hstack, hline⟩ := replay_recovers_stack includingFiles {} "a" s rfl hs
    [.fileChange "a", .fileChange "b", .line "y" 1, .fileChange "a"] (.line "x" 2)
    (hitems ▸ List.prefix_rfl)
  obtain ⟨current, below, lines, hreplay, hn, hopen, htext⟩ := hline "x" 2 rfl
  have hcurrent : current.path = "a" :=
    congrArg Activation.path (List.cons.inj hreplay).1.symm
  refine ⟨s, hs, hitems, hstack.symm, current, below, lines, hcurrent, hreplay, hn, ?_, htext⟩
  rw [← hcurrent, hopen]

end Scan

end SourceSplice.Proofs
