import SourceSplice.Proofs.ReaderContent
import SourceSplice.Proofs.ScanReplay
/-!
# Where the error of a scan points

The errors of a scan keep their place in different fields, and one of them counts the lines that were
read while the others give the number of the line at fault. They all come to one place: the line
behind those that were read of the file that the scan is in.
-/

namespace SourceSplice.Proofs

/-- An error lies in the line of a file that comes behind so many others, and the report of it says
so. -/
structure PointsBehind (files : FileSystem) (path : String) (linesRead : Nat) (e : ScanError) :
    Prop where
  file : e.file? = some path
  line : e.line? = some (linesRead + 1)
  /-- Only a malformed directive shows its line. -/
  shows_iff : e.sourceText?.isSome ↔ ∃ site text cause, e = .malformed site text cause
  verbatim : ∀ text, e.sourceText? = some text →
    ∃ reader, files.openFile path = .ok reader ∧ LineAt linesRead text reader.content
  report : (RunError.scan e).report.file = some path ∧
    (RunError.scan e).report.line = some (linesRead + 1) ∧
    (RunError.scan e).report.sourceText = e.sourceText?
  display : ∃ rest, (RunError.scan e).report.display =
    "[" ++ path ++ ":" ++ toString (linesRead + 1) ++ "]" ++ rest

section Errors

variable {files : FileSystem} {a : Activation} {s t : Scanner} {top : FileHandle} {e : ScanError}

lemma Trouble.file_line (h : Trouble s top e) :
    e.file? = some top.path ∧ e.line? = some (top.currentLine + 1) := by
  cases h <;> exact ⟨rfl, rfl⟩

lemma Trouble.shows_iff (h : Trouble s top e) :
    e.sourceText?.isSome ↔ ∃ site text cause, e = .malformed site text cause := by
  cases h with
  | malformed text _ cause => exact ⟨fun _ => ⟨_, text, cause, rfl⟩, fun _ => rfl⟩
  | _ =>
    refine ⟨nofun, ?_⟩
    rintro ⟨_, _, _, heq⟩
    cases heq

lemma Trouble.pending_of_sourceText {text : String} (h : Trouble s top e)
    (htext : e.sourceText? = some text) : ∃ pending, top.pending = .ok text :: pending := by
  cases h with
  | malformed text pending cause hpending =>
    cases htext
    exact ⟨pending, hpending⟩
  | _ => cases htext

lemma Tracks.lineAt {text : String} {pending : List (Except Fault String)} (h : Tracks files a top)
    (hpending : top.pending = .ok text :: pending) :
    ∃ reader, files.openFile a.path = .ok reader ∧ LineAt a.linesRead text reader.content := by
  obtain ⟨lines, hlines, hline⟩ := h.getElem?_linesRead hpending
  unfold FileSystem.outcomes at hlines
  cases hopen : files.openFile a.path with
  | error fault =>
    rw [hopen] at hlines
    cases hlines
  | ok reader =>
    rw [hopen] at hlines
    cases hlines
    exact ⟨reader, rfl, lineAt_of_getElem?_outcomes hline⟩

lemma display_of_place {r : Report} {path : String} {n : Nat} (hfile : r.file = some path)
    (hline : r.line = some n) :
    ∃ rest, r.display = "[" ++ path ++ ":" ++ toString n ++ "]" ++ rest := by
  have hmark : "] " = "]" ++ " " := by decide
  have hplace : r.display =
      "[" ++ path ++ ":" ++ toString n ++ "] " ++ r.phase ++ " error: " ++ r.message := by
    rw [Report.display, hfile, hline]
  refine ⟨" " ++ r.phase ++ " error: " ++ r.message, ?_⟩
  calc r.display
    _ = "[" ++ path ++ ":" ++ toString n ++ ("]" ++ " ") ++ r.phase ++ " error: " ++ r.message := by
      rw [hplace, ← hmark]
    _ = _ := by simp only [String.append_assoc, -String.reduceAppend]

lemma Trouble.pointsBehind (h : Trouble s top e) (htracks : Tracks files a top) :
    PointsBehind files a.path a.linesRead e := by
  obtain ⟨hfile, hline⟩ := h.file_line
  rw [← htracks.path] at hfile
  rw [← htracks.linesRead] at hline
  refine ⟨hfile, hline, h.shows_iff, ?_, ⟨hfile, hline, rfl⟩, display_of_place hfile hline⟩
  intro text htext
  obtain ⟨pending, hpending⟩ := h.pending_of_sourceText htext
  exact htracks.lineAt hpending

end Errors

section Scan

variable {files : FileSystem} {options : ScanOptions} {root : String} {s t : Scanner}
  {events : List Event} {e : ScanError}

lemma Advances.path_top {x : Event} (h : Advances s (some (.ok x)) t) :
    t.stack.head?.map FileHandle.path =
      x.changedFile?.or (if s.entered then s.stack.head?.map FileHandle.path else none) := by
  cases h with
  | opens top below hstack _ =>
    simp only [hstack]
    rfl
  | returns => rfl
  | reads top below text pending hstack hentered =>
    simp only [hstack, hentered]
    rfl
  | enters => rfl

lemma Advances.entered_of_event {x : Event} (h : Advances s (some (.ok x)) t) :
    t.entered = true := by
  cases h with
  | opens => rfl
  | returns _ _ _ _ hentered => exact hentered
  | reads _ _ _ _ _ hentered => exact hentered
  | enters _ _ _ _ _ _ _ hentered => exact hentered

lemma getLast?_changedFile (h : Scanner.openRoot files options root = .ok s)
    (hrun : events.map .ok <+: s.items) :
    (events.filterMap Event.changedFile?).getLast? =
      if (Feed.after s events.length).entered then
        (Feed.after s events.length).stack.head?.map FileHandle.path else none := by
  induction events using List.reverseRecOn with
  | nil =>
    obtain ⟨lines, -, hs⟩ := eq_of_openRoot h
    simp only [List.length_nil, Feed.after, hs]
    rfl
  | append_singleton events x ih =>
    have hadv := advances_of_isPrefix hrun
    rw [List.length_append, List.length_singleton, if_pos hadv.entered_of_event, hadv.path_top,
      ← ih (isPrefix_of_concat hrun), List.filterMap_append, List.getLast?_append]
    cases x <;> rfl

lemma trouble_of_items (hitems : s.items = events.map .ok ++ [.error e]) :
    (Feed.after s events.length).entered = true ∧ ∃ top below,
      (Feed.after s events.length).stack = top :: below ∧
        Trouble (Feed.after s events.length) top e := by
  have hnext : (Feed.after s events.length).next.1 = some (.error e) := by
    rw [← getElem?_items, hitems, List.getElem?_append_right (List.length_map _).le,
      List.length_map, Nat.sub_self]
    rfl
  have hadv := advances_next (Feed.after s events.length)
  rw [hnext] at hadv
  generalize (Feed.after s events.length).next.2 = t at hadv
  cases hadv with
  | fails top below _ hstack hentered htrouble => exact ⟨hentered, top, below, hstack, htrouble⟩

/-- When a scan ends in an error, it is in the file that it changed to last, and the error points at
the line of this file behind those that went by since it was entered: the lines that it gave and the
includes that were entered from it. With the check for cycles the events tell which these are. -/
theorem scan_error_points_at_line (files : FileSystem) (options : ScanOptions) (root : String)
    (s : Scanner) (h : Scanner.openRoot files options root = .ok s) (events : List Event)
    (e : ScanError) (hitems : s.items = events.map .ok ++ [.error e]) :
    ∃ current below, s.activations events.length = current :: below ∧
      (events.filterMap Event.changedFile?).getLast? = some current.path ∧
      PointsBehind files current.path (current.lines + current.children) e ∧
      (options.detectCycles = true → Activation.replayAll events = current :: below) := by
  have hrun : events.map .ok <+: s.items := hitems ▸ List.prefix_append _ _
  obtain ⟨hentered, top, below, hstack, htrouble⟩ := trouble_of_items hitems
  have htracks := (recovers_activations h hrun).tracks hentered
  have hlast := getLast?_changedFile h hrun
  rw [if_pos hentered, hstack] at hlast
  rw [hstack] at htracks
  generalize hacts : s.activations events.length = acts at htracks
  -- the activation on top stands for the file in which the scan is in trouble
  cases htracks with
  | @cons current _ above _ htop _ =>
    refine ⟨current, above, rfl, ?_, htrouble.pointsBehind htop, ?_⟩
    · rw [hlast, htop.path]
      rfl
    · intro hdetect
      rw [replayAll_eq_activations hdetect h hrun, hacts]

/-- A file with a malformed line behind the include of a second one. -/
def malformedFiles : FileSystem where
  isFile path := path == "a" || path == "b"
  openFile path :=
    if path = "a" then
      .ok (.ofBytes [35, 105, 110, 99, 108, 117, 100, 101, 32, 34, 98, 34, 10, 35, 105, 110, 99, 108, 117, 100, 101, 13,
        10])
    else if path = "b" then .ok (.ofBytes [121])
    else .error (.pathNotFound path)

theorem scan_error_points_at_line_malformed :
    ∃ s, Scanner.openRoot malformedFiles {} "a" = .ok s ∧
      s.items = [.ok (.fileChange "a"), .ok (.fileChange "b"), .ok (.line "y" 1),
        .ok (.fileChange "a"), .error (.malformed ⟨"a", 2⟩ "#include" .emptyPath)] ∧
      PointsBehind malformedFiles "a" 1 (.malformed ⟨"a", 2⟩ "#include" .emptyPath) := by
  have hlines : malformedFiles.outcomes "a" = .ok [.ok "#include \"b\"", .ok "#include"] := by
    decide +kernel
  obtain ⟨s, hs⟩ : ∃ s, Scanner.openRoot malformedFiles {} "a" = .ok s := ⟨_, rfl⟩
  obtain ⟨lines, hlines', hitems⟩ := items_openRoot hs
  obtain rfl := Except.ok.inj (hlines.symm.trans hlines')
  have hexpand : Expansion.ofRoot malformedFiles {} "a" [.ok "#include \"b\"", .ok "#include"] =
      [.ok (.fileChange "a"), .ok (.fileChange "b"), .ok (.line "y" 1), .ok (.fileChange "a"),
        .error (.malformed ⟨"a", 2⟩ "#include" .emptyPath)] := by
    cbv
  rw [hexpand] at hitems
  obtain ⟨current, below, -, -, hpoints, hreplay⟩ := scan_error_points_at_line malformedFiles {} "a"
    s hs [.fileChange "a", .fileChange "b", .line "y" 1, .fileChange "a"] _ hitems
  obtain ⟨rfl, -⟩ := List.cons.inj (hreplay rfl)
  exact ⟨s, hs, hitems, hpoints⟩

end Scan

end SourceSplice.Proofs
