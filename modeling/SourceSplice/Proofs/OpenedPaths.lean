import SourceSplice.Proofs.ReaderContent
import SourceSplice.Proofs.ScanReplay
/-!
# The paths that a scan opens

A scan sees of a file system what opening the paths that it asks for gives, and nothing else. So two
scans over file systems that agree on these paths go in lock step. The paths are the root and then,
in the order of the items, the targets of the includes that pass the check for cycles and the limit
on the depth.
-/

namespace SourceSplice

/-- The path that the next step of a scan asks the file system to open. -/
def Scanner.admitted? (s : Scanner) : Option String :=
  match s.stack with
  | [] => none
  | top :: _ =>
    match s.entered, top.pending with
    | true, .ok text :: _ =>
      match Directive.parse text with
      | .ok (.inclusion target) =>
        if s.options.detectCycles = true ∧ target ∈ s.stack.map FileHandle.path then none
        else if s.options.maxIncludeDepth < s.stack.length then none
        else some target
      | _ => none
    | _, _ => none

/-- The paths that a whole scan asks the file system to open, the first one first. -/
def openedPaths (files : FileSystem) (options : ScanOptions) (root : String) : List String :=
  match Scanner.start files options root with
  | .ok s => s.run.2.requests.reverse
  | .error _ => Scanner.startRequests files root

end SourceSplice

namespace SourceSplice.Proofs

section Requests

variable {s t : Scanner} {x : Option ScanItem} {top : FileHandle} {below : List FileHandle}
  {text target : String} {pending : List (Except Fault String)} {e : ScanError}

lemma admitted?_of_include (hstack : s.stack = top :: below) (hentered : s.entered = true)
    (hpending : top.pending = .ok text :: pending)
    (hparse : Directive.parse text = .ok (.inclusion target)) :
    s.admitted? =
      if s.options.detectCycles = true ∧ target ∈ s.stack.map FileHandle.path then none
      else if s.options.maxIncludeDepth < s.stack.length then none
      else some target := by
  simp only [Scanner.admitted?, hentered, hstack, hpending, hparse]

/-- An error shows which path could not be opened, if it is that. -/
def unopened? : ScanError → Option String
  | .cannotOpen path _ _ => some path
  | _ => none

lemma requestsAt_eq (s : Scanner) (e : ScanError) :
    requestsAt s e = (unopened? e).toList ++ s.requests := by
  cases e <;> rfl

lemma Trouble.admitted?_eq (h : Trouble s top e) (hstack : s.stack = top :: below)
    (hentered : s.entered = true) : s.admitted? = unopened? e := by
  cases h with
  | unreadable fault pending hpending =>
    simp only [Scanner.admitted?, hentered, hstack, hpending]
    rfl
  | malformed text pending cause hpending hparse =>
    simp only [Scanner.admitted?, hentered, hstack, hpending, hparse]
    rfl
  | cycle text target pending hpending hparse hdetect hmem =>
    rw [admitted?_of_include hstack hentered hpending hparse, if_pos ⟨hdetect, hmem⟩]
    rfl
  | tooDeep text target pending hpending hparse hcycle hdeep =>
    rw [admitted?_of_include hstack hentered hpending hparse, if_neg hcycle, if_pos hdeep]
    rfl
  | unopened text target pending fault hpending hparse hcycle hdeep =>
    rw [admitted?_of_include hstack hentered hpending hparse, if_neg hcycle, if_neg hdeep]
    rfl

/-- How a path that was asked for shows in the item of the step: the scan enters the file, or ends
since it does not open. -/
def Shows (target : String) (x : Option ScanItem) : Prop :=
  x = some (.ok (.fileChange target)) ∨
    ∃ site fault, x = some (.error (.cannotOpen target (some site) fault))

/-- What a step asks for, and how it shows. -/
structure Asks (s : Scanner) (x : Option ScanItem) (t : Scanner) : Prop where
  requests : t.requests = s.admitted?.toList ++ s.requests
  shows_admitted : ∀ target, s.admitted? = some target → Shows target x

lemma asks_of_none (hadmitted : s.admitted? = none) (hrequests : t.requests = s.requests) :
    Asks s x t := by
  refine ⟨?_, ?_⟩
  · rw [hadmitted, hrequests]
    rfl
  · intro target htarget
    cases hadmitted.symm.trans htarget

lemma Trouble.shows_unopened (h : Trouble s top e) (htarget : unopened? e = some target) :
    Shows target (some (.error e)) := by
  cases h with
  | unopened =>
    cases htarget
    exact .inr ⟨_, _, rfl⟩
  | _ => cases htarget

lemma Advances.asks (h : Advances s x t) : Asks s x t := by
  cases h with
  | halted hstack =>
    exact asks_of_none (by simp only [Scanner.admitted?, hstack]) rfl
  | opens top below hstack hentered =>
    exact asks_of_none (by simp only [Scanner.admitted?, hstack, hentered]) rfl
  | finishes top hstack hentered hpending =>
    exact asks_of_none (by simp only [Scanner.admitted?, hstack, hentered, hpending]) rfl
  | returns top parent below hstack hentered hpending =>
    exact asks_of_none (by simp only [Scanner.admitted?, hstack, hentered, hpending]) rfl
  | reads top below text pending hstack hentered hpending hparse =>
    exact asks_of_none (by simp only [Scanner.admitted?, hstack, hentered, hpending, hparse]) rfl
  | enters top below text target pending lines hstack hentered hpending hparse hcycle hdeep =>
    have hadmitted : s.admitted? = some target := by
      rw [admitted?_of_include hstack hentered hpending hparse, if_neg hcycle, if_neg hdeep]
    refine ⟨?_, ?_⟩
    · rw [hadmitted]
      rfl
    · intro target' htarget
      obtain rfl := Option.some.inj (hadmitted.symm.trans htarget)
      exact .inl rfl
  | fails top below e hstack hentered htrouble =>
    have hadmitted := htrouble.admitted?_eq hstack hentered
    refine ⟨?_, ?_⟩
    · rw [hadmitted]
      exact requestsAt_eq s e
    · intro target htarget
      exact htrouble.shows_unopened (hadmitted.symm.trans htarget)

lemma requests_run (s : Scanner) :
    s.run.2.requests.reverse = s.requests.reverse ++
      (List.range s.items.length).filterMap fun k => (Feed.after s k).admitted? := by
  induction s using Scanner.run.induct with
  | case1 s last _ hnext =>
    have hadv := advances_next s
    rw [hnext] at hadv
    -- a path that was asked for would show in an item, and there is none
    have hadmitted : s.admitted? = none := by
      cases hadmitted : s.admitted? with
      | none => rfl
      | some target => rcases hadv.asks.shows_admitted target hadmitted with h | ⟨_, _, h⟩ <;> cases h
    rw [Scanner.items, Scanner.run_of_next_none hnext, hadv.asks.requests, hadmitted]
    exact (List.append_nil _).symm
  | case2 s x rest _ hnext _ xs last _ ih =>
    have hadv := advances_next s
    rw [hnext] at hadv
    have hrest : ∀ k, Feed.after s (k + 1) = Feed.after rest k := by
      intro k
      exact congrArg (fun next => Feed.after next.2 k) hnext
    rw [Scanner.items, Scanner.run_of_next_some hnext, List.length_cons, List.range_succ_eq_map,
      List.filterMap_cons, List.filterMap_map, Function.comp_def]
    simp only [hrest]
    rw [ih, hadv.asks.requests, List.reverse_append]
    cases hadmitted : s.admitted? <;> simp only [Feed.after, hadmitted, Scanner.items,
      Option.toList_none, Option.toList_some, List.reverse_nil, List.append_nil,
      List.reverse_singleton, List.append_assoc, List.singleton_append]

lemma requests_subset_run (s : Scanner) : s.requests ⊆ s.run.2.requests := by
  intro path hpath
  rw [← List.mem_reverse, requests_run]
  exact List.mem_append_left _ (List.mem_reverse.mpr hpath)

end Requests

section Agreement

/-- Two answers to opening a path off which the same will be read. -/
inductive SameOpening : Except Fault Reader → Except Fault Reader → Prop where
  | fault (fault : Fault) : SameOpening (.error fault) (.error fault)
  | content (r r' : Reader) : SameContent r r' → SameOpening (.ok r) (.ok r')

def onFiles (others : FileSystem) (s : Scanner) : Scanner :=
  { s with files := others }

variable {files others : FileSystem} {s t : Scanner} {x : Option ScanItem} {top : FileHandle}
  {e : ScanError} {path : String}

lemma outcomes_eq_of_sameOpening (h : SameOpening (files.openFile path) (others.openFile path)) :
    others.outcomes path = files.outcomes path := by
  unfold FileSystem.outcomes
  generalize files.openFile path = opened at h
  generalize others.openFile path = opened' at h
  cases h with
  | fault => rfl
  | content r r' hcontent => exact congrArg Except.ok hcontent.outcomes_eq.symm

lemma Trouble.onFiles (h : Trouble s top e)
    (hagree : ∀ path ∈ requestsAt s e, others.outcomes path = s.files.outcomes path) :
    Trouble (onFiles others s) top e := by
  cases h with
  | unreadable fault pending hpending => exact .unreadable fault pending hpending
  | malformed text pending cause hpending hparse =>
    exact .malformed text pending cause hpending hparse
  | cycle text target pending hpending hparse hdetect hmem =>
    exact .cycle text target pending hpending hparse hdetect hmem
  | tooDeep text target pending hpending hparse hcycle hdeep =>
    exact .tooDeep text target pending hpending hparse hcycle hdeep
  | unopened text target pending fault hpending hparse hcycle hdeep hlines =>
    have hlines' := (hagree target List.mem_cons_self).trans hlines
    exact .unopened text target pending fault hpending hparse hcycle hdeep hlines'

lemma Advances.onFiles (h : Advances s x t)
    (hagree : ∀ path ∈ t.requests, others.outcomes path = s.files.outcomes path) :
    Advances (onFiles others s) x (onFiles others t) := by
  cases h with
  | halted hstack => exact .halted hstack
  | opens top below hstack hentered => exact .opens top below hstack hentered
  | finishes top hstack hentered hpending => exact .finishes top hstack hentered hpending
  | returns top parent below hstack hentered hpending =>
    exact .returns top parent below hstack hentered hpending
  | reads top below text pending hstack hentered hpending hparse =>
    exact .reads top below text pending hstack hentered hpending hparse
  | enters top below text target pending lines hstack hentered hpending hparse hcycle hdeep hlines =>
    have hlines' := (hagree target List.mem_cons_self).trans hlines
    exact .enters top below text target pending lines hstack hentered hpending hparse hcycle hdeep
      hlines'
  | fails top below e hstack hentered htrouble =>
    exact .fails top below e hstack hentered (htrouble.onFiles hagree)

lemma run_onFiles (s : Scanner)
    (hagree : ∀ path ∈ s.run.2.requests, others.outcomes path = s.files.outcomes path) :
    (onFiles others s).run = (s.run.1, onFiles others s.run.2) := by
  induction s using Scanner.run.induct with
  | case1 s last _ hnext =>
    have hadv := advances_next s
    rw [hnext] at hadv
    rw [Scanner.run_of_next_none hnext] at hagree ⊢
    exact Scanner.run_of_next_none (hadv.onFiles hagree).next_eq
  | case2 s x rest _ hnext _ xs last _ ih =>
    have hadv := advances_next s
    rw [hnext] at hadv
    rw [Scanner.run_of_next_some hnext] at hagree ⊢
    -- what this step asks for is still among what was asked for at the end
    have hadv' := hadv.onFiles fun path hpath => hagree path (requests_subset_run rest hpath)
    rw [Scanner.run_of_next_some hadv'.next_eq, ih (hadv.files_eq ▸ hagree)]

end Agreement

section Scan

variable {files others : FileSystem} {options : ScanOptions} {root : String} {s : Scanner}

lemma eq_of_start (h : Scanner.start files options root = .ok s) :
    files.isFile root = true ∧ Scanner.openRoot files options root = .ok s := by
  unfold Scanner.start at h
  split at h
  · rename_i hfile
    refine ⟨hfile, ?_⟩
    cases hopen : Scanner.openRoot files options root with
    | ok s' =>
      rw [hopen] at h
      exact congrArg Except.ok (Except.ok.inj h)
    | error e =>
      rw [hopen] at h
      cases h
  · cases h

lemma openedPaths_of_start (h : Scanner.start files options root = .ok s) :
    openedPaths files options root = root ::
      (List.range s.items.length).filterMap fun k => (Feed.after s k).admitted? := by
  obtain ⟨lines, -, hs⟩ := eq_of_openRoot (eq_of_start h).2
  have hroot : s.requests.reverse = [root] := by rw [hs]; rfl
  rw [openedPaths, h]
  exact (requests_run s).trans (by rw [hroot]; rfl)

/-- Which paths a scan opens: nothing if the root is no file, otherwise the root and what the items
tell, up to the include at which the scan ends. -/
structure OpensInOrder (files : FileSystem) (options : ScanOptions) (root : String) : Prop where
  of_notFile : files.isFile root = false → openedPaths files options root = []
  of_notOpened : ∀ e, files.isFile root = true →
    Scanner.openRoot files options root = .error e → openedPaths files options root = [root]
  of_start : ∀ s, Scanner.start files options root = .ok s →
    openedPaths files options root = root ::
        (List.range s.items.length).filterMap (fun k => (Feed.after s k).admitted?) ∧
      (∀ k target, (Feed.after s k).admitted? = some target → Shows target s.items[k]?) ∧
      ∀ k e, s.items[k]? = some (.error e) →
        k + 1 = s.items.length ∧ (Feed.after s k).admitted? = unopened? e

lemma Advances.admitted?_of_error {e : ScanError} {t : Scanner}
    (h : Advances s (some (.error e)) t) : s.admitted? = unopened? e := by
  cases h with
  | fails top below _ hstack hentered htrouble => exact htrouble.admitted?_eq hstack hentered

lemma last_of_error {e : ScanError} {k : Nat} (h : s.items[k]? = some (.error e)) :
    k + 1 = s.items.length := by
  have hadv := advances_next (Feed.after s k)
  rw [← getElem?_items, h] at hadv
  -- the error has closed all files, so the next draw gives nothing
  have hend : s.items[k + 1]? = none := by
    rw [getElem?_items, after_succ, (Advances.halted hadv.halts.1).next_eq]
  have hle := List.getElem?_eq_none_iff.mp hend
  obtain ⟨hlt, -⟩ := List.getElem?_eq_some_iff.mp h
  omega

lemma opensInOrder (files : FileSystem) (options : ScanOptions) (root : String) :
    OpensInOrder files options root := by
  refine ⟨?_, ?_, ?_⟩
  · intro hfile
    simp only [openedPaths, Scanner.start, Scanner.startRequests, hfile, Bool.false_eq_true, if_false]
  · intro e hfile hopen
    simp only [openedPaths, Scanner.start, Scanner.startRequests, hfile, hopen, if_true]
  · intro s hs
    refine ⟨openedPaths_of_start hs, ?_, ?_⟩
    · intro k target htarget
      rw [getElem?_items]
      exact (advances_next (Feed.after s k)).asks.shows_admitted target htarget
    · intro k e hk
      refine ⟨last_of_error hk, ?_⟩
      have hadv := advances_next (Feed.after s k)
      rw [← getElem?_items, hk] at hadv
      exact hadv.admitted?_of_error

lemma start_onFiles (hroot : others.isFile root = files.isFile root)
    (hlines : files.isFile root = true → others.outcomes root = files.outcomes root) :
    Scanner.start others options root =
      (Scanner.start files options root).map (onFiles others) := by
  unfold Scanner.start
  rw [hroot]
  cases hfile : files.isFile root with
  | false => rfl
  | true =>
    simp only [if_true, Scanner.openRoot, FileHandle.openFile, hlines hfile]
    cases files.outcomes root <;> rfl

lemma root_mem_openedPaths (hfile : files.isFile root = true) :
    root ∈ openedPaths files options root := by
  cases hs : Scanner.start files options root with
  | ok s =>
    rw [openedPaths_of_start hs]
    exact List.mem_cons_self
  | error e =>
    simp only [openedPaths, hs, Scanner.startRequests, hfile, if_true]
    exact List.mem_cons_self

/-- Two file systems that agree on whether the root is a file, and on what comes of opening the paths
that a scan of the first one opens, cannot be told apart by that scan: it starts in the same way, goes
through the same steps and opens the same paths. These are the root and what the items tell. -/
theorem scan_reads_only_what_it_reaches (files others : FileSystem) (options : ScanOptions)
    (root : String) (hroot : others.isFile root = files.isFile root)
    (hagree : ∀ path ∈ openedPaths files options root,
      SameOpening (files.openFile path) (others.openFile path)) :
    Scanner.start others options root = (Scanner.start files options root).map (onFiles others) ∧
      (∀ s, Scanner.start files options root = .ok s →
        (onFiles others s).items = s.items ∧ (onFiles others s).run.2 = onFiles others s.run.2) ∧
      openedPaths others options root = openedPaths files options root ∧
      OpensInOrder files options root := by
  have hstart : Scanner.start others options root =
      (Scanner.start files options root).map (onFiles others) :=
    start_onFiles hroot fun hfile =>
      outcomes_eq_of_sameOpening (hagree root (root_mem_openedPaths hfile))
  have hrun : ∀ s, Scanner.start files options root = .ok s →
      (onFiles others s).run = (s.run.1, onFiles others s.run.2) := by
    intro s hs
    obtain ⟨lines, -, hfiles⟩ := eq_of_openRoot (eq_of_start hs).2
    apply run_onFiles
    intro path hpath
    rw [openedPaths, hs] at hagree
    have hfiles' : s.files = files := by rw [hfiles]
    rw [hfiles']
    exact outcomes_eq_of_sameOpening (hagree path (List.mem_reverse.mpr hpath))
  refine ⟨hstart, ?_, ?_, opensInOrder files options root⟩
  · intro s hs
    exact ⟨congrArg (·.1) (hrun s hs), congrArg (·.2) (hrun s hs)⟩
  · unfold openedPaths
    rw [hstart]
    cases hs : Scanner.start files options root with
    | ok s =>
      simp only [Except.map, hrun s hs]
      rfl
    | error e =>
      simp only [Except.map, Scanner.startRequests, hroot]

/-- Files that differ from a file with an include and the file it includes in what else there is, and
in how the bytes come. -/
def crowdedFiles : FileSystem where
  isFile _ := true
  openFile path :=
    if path = "a" then includingFiles.openFile "a"
    else .ok { deliveries := [.interrupted, .bytes [121]] }

theorem scan_reads_only_what_it_reaches_crowded :
    openedPaths includingFiles {} "a" = ["a", "b"] ∧
      openedPaths crowdedFiles {} "a" = ["a", "b"] ∧
      (includingFiles.openFile "c").toOption = none ∧
      (crowdedFiles.openFile "c").toOption.isSome := by
  obtain ⟨s, hs⟩ : ∃ s, Scanner.start includingFiles {} "a" = .ok s := ⟨_, rfl⟩
  obtain ⟨lines, hlines, hopen⟩ := eq_of_openRoot (eq_of_start hs).2
  obtain rfl := Except.ok.inj (outcomes_includingFiles.symm.trans hlines)
  have hitems : s.items.length = 5 := by
    rw [items_includingFiles (eq_of_start hs).2]
    rfl
  have hpaths : openedPaths includingFiles {} "a" = ["a", "b"] := by
    rw [openedPaths_of_start hs, hitems, hopen]
    cbv
  have hagree : ∀ path ∈ openedPaths includingFiles {} "a",
      SameOpening (includingFiles.openFile path) (crowdedFiles.openFile path) := by
    rw [hpaths]
    intro path hpath
    rw [List.mem_cons, List.mem_singleton] at hpath
    rcases hpath with rfl | rfl
    · exact .content _ _ ⟨rfl, rfl⟩
    · exact .content _ _ ⟨rfl, rfl⟩
  obtain ⟨-, -, hsame, -⟩ :=
    scan_reads_only_what_it_reaches includingFiles crowdedFiles {} "a" rfl hagree
  exact ⟨hpaths, hsame.trans hpaths, rfl, rfl⟩

end Scan

end SourceSplice.Proofs
