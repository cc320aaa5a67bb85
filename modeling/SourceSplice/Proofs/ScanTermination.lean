import SourceSplice.FileSystem.Memory
import SourceSplice.Proofs.ScanSteps
import SourceSplice.Writer
/-!
# How far a scan can go

A scan comes to its end after a bounded number of items. With the check for cycles the files on its
stack are all different, and all of them are named: by whoever starts the scan, or by a line of some
file. So there are never more of them than there are such names, and a limit that allows for these
is never met.
-/

namespace SourceSplice.Proofs
open Expansion

/-- Whether one of these lines includes a path. -/
def Includes (lines : List (Except Fault String)) (path : String) : Prop :=
  ∃ text, .ok text ∈ lines ∧ Directive.parse text = .ok (.inclusion path)

/-- The paths that a scan can come to: its root, and what any line of any file includes. -/
def names (files : FileSystem) (root : String) : Set String :=
  {path | path = root ∨ ∃ source lines, files.outcomes source = .ok lines ∧ Includes lines path}

/-- What there is to read: under whatever path, every file that opens gives one of these. -/
def contents (files : FileSystem) : Set (List (Except Fault String)) :=
  {lines | ∃ path, files.outcomes path = .ok lines}

lemma finite_contents_memory (m : MemoryStore) : (contents m.fileSystem).Finite := by
  refine (((List.finite_toSet (m.files.map (·.2))).image
    fun bytes => (Reader.ofBytes bytes).outcomes)).subset ?_
  rintro lines ⟨path, hlines⟩
  rw [MemoryStore.outcomes_fileSystem] at hlines
  cases hcontent : m.content? path with
  | none =>
    rw [hcontent] at hlines
    cases hlines
  | some bytes =>
    rw [hcontent] at hlines
    obtain ⟨before, after, hfiles, -⟩ := List.lookup_eq_some_iff.mp hcontent
    have hmem : (MemoryStore.normalize path, bytes) ∈ m.files := by
      rw [hfiles]
      exact List.mem_append_right _ List.mem_cons_self
    exact ⟨bytes, List.mem_map.mpr ⟨_, hmem, rfl⟩, Except.ok.inj hlines⟩

lemma Includes.of_cons {line : Except Fault String} {lines : List (Except Fault String)}
    {path : String} (h : Includes (line :: lines) path) :
    (∃ text, line = .ok text ∧ Directive.parse text = .ok (.inclusion path)) ∨
      Includes lines path := by
  obtain ⟨text, htext, hparse⟩ := h
  rcases List.mem_cons.mp htext with hline | htext
  · exact .inl ⟨text, hline.symm, hparse⟩
  · exact .inr ⟨text, htext, hparse⟩

lemma Includes.cons {lines : List (Except Fault String)} {path : String} (h : Includes lines path)
    (line : Except Fault String) : Includes (line :: lines) path :=
  let ⟨text, htext, hparse⟩ := h
  ⟨text, List.mem_cons_of_mem _ htext, hparse⟩

lemma finite_included (lines : List (Except Fault String)) : {path | Includes lines path}.Finite := by
  induction lines with
  | nil => exact Set.finite_empty.subset fun path ⟨text, htext, _⟩ => by cases htext
  | cons line lines ih =>
    by_cases hline : ∃ text path, line = .ok text ∧ Directive.parse text = .ok (.inclusion path)
    · obtain ⟨text, path, rfl, hparse⟩ := hline
      refine (ih.insert path).subset fun path' h => ?_
      rcases h.of_cons with ⟨text', htext, hparse'⟩ | h
      · cases htext
        cases hparse.symm.trans hparse'
        exact Set.mem_insert _ _
      · exact Set.mem_insert_of_mem _ h
    · refine ih.subset fun path h => ?_
      rcases h.of_cons with ⟨text, htext, hparse⟩ | h
      · exact absurd ⟨text, path, htext, hparse⟩ hline
      · exact h

lemma finite_names {files : FileSystem} (h : (contents files).Finite) (root : String) :
    (names files root).Finite := by
  refine ((h.biUnion fun lines _ => finite_included lines).insert root).subset ?_
  rintro path (rfl | ⟨source, lines, hlines, hpath⟩)
  · exact Set.mem_insert _ _
  · exact Set.mem_insert_of_mem _ (Set.mem_biUnion ⟨source, hlines⟩ hpath)

lemma length_le_ncard {S : Set String} (hfinite : S.Finite) {paths : List String}
    (hnodup : paths.Nodup) (hmem : ∀ p ∈ paths, p ∈ S) : paths.length ≤ S.ncard := by
  rw [← List.toFinset_card_of_nodup hnodup, ← Set.ncard_coe_finset]
  exact Set.ncard_le_ncard (fun p hp => hmem p (List.mem_toFinset.mp hp)) hfinite

section Stack

variable {files : FileSystem} {root : String} {s t : Scanner} {x : Option ScanItem}

/-- The files of a stack, and those that their lines include, have names. -/
structure Named (files : FileSystem) (root : String) (s : Scanner) : Prop where
  files_eq : s.files = files
  path : ∀ h ∈ s.stack, h.path ∈ names files root
  ahead : ∀ h ∈ s.stack, ∀ target, Includes h.pending target → target ∈ names files root

lemma Named.step (hadv : Advances s x t) (h : Named files root s) : Named files root t := by
  have hread : ∀ {top below text pending}, s.stack = top :: below →
      top.pending = .ok text :: pending →
      (lineRead top pending).path ∈ names files root ∧
        ∀ target, Includes pending target → target ∈ names files root := by
    intro top below text pending hstack hpending
    have htop : top ∈ s.stack := by
      rw [hstack]
      exact List.mem_cons_self
    refine ⟨h.path top htop, fun target ht => h.ahead top htop target ?_⟩
    rw [hpending]
    exact ht.cons _
  obtain ⟨hfiles, hpath, hahead⟩ := h
  cases hadv with
  | halted hstack => exact ⟨hfiles, hpath, hahead⟩
  | opens top below hstack => exact ⟨hfiles, hpath, hahead⟩
  | finishes top hstack => exact ⟨hfiles, nofun, nofun⟩
  | returns top parent below hstack =>
    rw [hstack] at hpath hahead
    exact ⟨hfiles, fun h hh => hpath h (List.mem_cons_of_mem _ hh),
      fun h hh => hahead h (List.mem_cons_of_mem _ hh)⟩
  | reads top below text pending hstack _ hpending =>
    obtain ⟨hp, ha⟩ := hread hstack hpending
    rw [hstack] at hpath hahead
    exact ⟨hfiles, List.forall_mem_cons.mpr ⟨hp, (List.forall_mem_cons.mp hpath).2⟩,
      List.forall_mem_cons.mpr ⟨ha, (List.forall_mem_cons.mp hahead).2⟩⟩
  | enters top below text target pending lines hstack _ hpending hparse _ _ hlines =>
    obtain ⟨hp, ha⟩ := hread hstack hpending
    rw [hstack] at hpath hahead
    have hnamed : target ∈ names files root := by
      refine (List.forall_mem_cons.mp hahead).1 target ?_
      rw [hpending]
      exact ⟨text, List.mem_cons_self, hparse⟩
    rw [hfiles] at hlines
    refine ⟨hfiles, ?_, ?_⟩
    · exact List.forall_mem_cons.mpr ⟨hnamed,
        List.forall_mem_cons.mpr ⟨hp, (List.forall_mem_cons.mp hpath).2⟩⟩
    · exact List.forall_mem_cons.mpr ⟨fun path h => .inr ⟨target, lines, hlines, h⟩,
        List.forall_mem_cons.mpr ⟨ha, (List.forall_mem_cons.mp hahead).2⟩⟩
  | fails top below e hstack => exact ⟨hfiles, nofun, nofun⟩

/-- With the check for cycles no file stands on the stack twice. -/
def Distinct (s : Scanner) : Prop :=
  s.options.detectCycles = true → (s.stack.map FileHandle.path).Nodup

lemma Distinct.step (hadv : Advances s x t) (h : Distinct s) : Distinct t := by
  intro hdetect
  rw [hadv.options_eq] at hdetect
  have hnodup := h hdetect
  cases hadv with
  | halted hstack => exact hnodup
  | opens top below hstack => exact hnodup
  | finishes top hstack => exact List.nodup_nil
  | returns top parent below hstack =>
    rw [hstack] at hnodup
    exact (List.nodup_cons.mp hnodup).2
  | reads top below text pending hstack =>
    rw [hstack] at hnodup
    exact hnodup
  | enters top below text target pending lines hstack _ _ _ hcycle =>
    have hfresh : target ∉ s.stack.map FileHandle.path := fun hmem => hcycle ⟨hdetect, hmem⟩
    rw [hstack] at hnodup hfresh
    exact List.nodup_cons.mpr ⟨hfresh, hnodup⟩
  | fails top below e hstack => exact List.nodup_nil

end Stack

section Length

lemma length_followedBy_le (xs ys : List ScanItem) :
    (followedBy xs ys).length ≤ xs.length + ys.length := by
  induction xs with
  | nil => exact (Nat.zero_add _).ge
  | cons x xs ih =>
    cases x with
    | ok e =>
      simp only [followedBy_ok_cons, List.length_cons]
      omega
    | error e =>
      simp only [followedBy_error_cons, List.length_cons, List.length_nil]
      omega

lemma one_lt_fileEffort_cons (files : FileSystem) (levels : Nat) (x : Except Fault String)
    (pending : List (Except Fault String)) :
    1 < Scanner.fileEffort files levels (x :: pending) :=
  Nat.lt_of_le_of_lt (Scanner.fileEffort_pos files levels pending)
    (Scanner.fileEffort_lt_cons files levels x pending)

/-- With the check for cycles it is not the limit that bounds the rest of a file: no more levels come
into question than there are names besides those of the files that are being read. -/
lemma length_rest_lt {files : FileSystem} {options : ScanOptions} {root : String}
    (hdetect : options.detectCycles = true) (hfinite : (names files root).Finite) (path : String)
    (above : List String) (n : Nat) (pending : List (Except Fault String)) (levels : Nat)
    (hnodup : (path :: above).Nodup) (hnamed : ∀ p ∈ path :: above, p ∈ names files root)
    (hahead : ∀ p, Includes pending p → p ∈ names files root)
    (hlevels : (names files root).ncard ≤ levels + (path :: above).length) :
    (rest files options path above n pending).length <
      Scanner.fileEffort files levels pending := by
  fun_induction rest files options path above n pending generalizing levels with
  | case1 path above n => exact Scanner.fileEffort_pos files levels []
  | case3 path above n text pending hparse ih =>
    have hrest := ih levels hnodup hnamed (fun p hp => hahead p (hp.cons _)) hlevels
    have hlt := Scanner.fileEffort_lt_cons files levels (.ok text) pending
    rw [List.length_cons]
    omega
  | case8 path above n text pending target hparse hcycle hdeep lines hlines ihInner ihAfter =>
    have htarget : target ∈ names files root := hahead target ⟨text, List.mem_cons_self, hparse⟩
    have hnodup' : (target :: path :: above).Nodup :=
      List.nodup_cons.mpr ⟨fun hmem => hcycle ⟨hdetect, hmem⟩, hnodup⟩
    have hnamed' : ∀ p ∈ target :: path :: above, p ∈ names files root :=
      List.forall_mem_cons.mpr ⟨htarget, hnamed⟩
    have hcard := length_le_ncard hfinite hnodup' hnamed'
    obtain ⟨fewer, rfl⟩ : ∃ fewer, levels = fewer + 1 := by
      simp only [List.length_cons] at hcard hlevels
      exact ⟨levels - 1, by omega⟩
    have hinner := ihInner fewer hnodup' hnamed' (fun p hp => .inr ⟨target, lines, hlines, hp⟩)
      (by simp only [List.length_cons] at hlevels ⊢; omega)
    have hafter := ihAfter (fewer + 1) hnodup hnamed (fun p hp => hahead p (hp.cons _)) hlevels
    have hincluded : Scanner.included? files (.ok text) = some lines := by
      simp only [Scanner.included?, hparse, hlines, Except.toOption]
    have heffort : Scanner.fileEffort files (fewer + 1) (.ok text :: pending) =
        1 + Scanner.fileEffort files fewer lines + Scanner.fileEffort files (fewer + 1) pending :=
      Scanner.fileEffort_cons_included hincluded
    have hlength := length_followedBy_le (rest files options target (path :: above) 0 lines)
      (.ok (.fileChange path) :: rest files options path above (n + 1) pending)
    simp only [List.length_cons] at hlength ⊢
    omega
  | _ => exact one_lt_fileEffort_cons files levels _ _

lemma length_items_le_effort (s : Scanner) : s.items.length ≤ s.effort := by
  unfold Scanner.items
  induction s using Scanner.run.induct with
  | case1 s last _ hnext =>
    rw [Scanner.run_of_next_none hnext]
    exact Nat.zero_le _
  | case2 s x s' hsmaller hnext hlt xs last hrun ih =>
    rw [Scanner.run_of_next_some hnext]
    exact (Nat.succ_le_succ ih).trans hlt

end Length

section Scan

variable {files : FileSystem} {options : ScanOptions} {root : String} {s : Scanner}

lemma named_after (h : Scanner.openRoot files options root = .ok s) (k : Nat) :
    Named files root (Feed.after s k) := by
  obtain ⟨lines, hlines, rfl⟩ := eq_of_openRoot h
  refine after_induction (P := Named files root) ⟨rfl, ?_, ?_⟩ (fun _ _ _ hadv hn => hn.step hadv) k
  · exact List.forall_mem_singleton.mpr (.inl rfl)
  · exact List.forall_mem_singleton.mpr fun p hp => .inr ⟨root, lines, hlines, hp⟩

lemma distinct_after (h : Scanner.openRoot files options root = .ok s) (k : Nat) :
    Distinct (Feed.after s k) := by
  obtain ⟨lines, hlines, rfl⟩ := eq_of_openRoot h
  refine after_induction (P := Distinct) ?_ (fun _ _ _ hadv hd => hd.step hadv) k
  exact fun _ => List.nodup_singleton root

/-- How far a scan of a root can go that checks for cycles, whatever its limit on the depth is. -/
structure BoundedByNames (files : FileSystem) (root : String) (s : Scanner) : Prop where
  finite : (names files root).Finite
  distinct : ∀ k, ((Feed.after s k).stack.map FileHandle.path).Nodup
  named : ∀ k, ∀ p ∈ (Feed.after s k).stack.map FileHandle.path, p ∈ names files root
  depth : ∀ k, (Feed.after s k).stack.length ≤ (names files root).ncard
  /-- A limit that allows for all the names is never met. -/
  notTooDeep : (names files root).ncard - 1 ≤ s.options.maxIncludeDepth →
    ∀ path site limit, .error (.tooDeep path site limit) ∉ s.items
  /-- There are only so many items, whatever the limit is. -/
  length_le : ∀ lines, files.outcomes root = .ok lines →
    s.items.length ≤ Scanner.fileEffort files ((names files root).ncard - 1) lines + 1

lemma not_tooDeep_of_names (h : Scanner.openRoot files options root = .ok s)
    (hdetect : options.detectCycles = true) (hfinite : (names files root).Finite)
    (hlimit : (names files root).ncard - 1 ≤ options.maxIncludeDepth) (path : String) (site : Site)
    (limit : Nat) : .error (.tooDeep path site limit) ∉ s.items := by
  intro hmem
  obtain ⟨k, top, below, hstack, htrouble⟩ := trouble_of_mem_items hmem
  have hoptions : (Feed.after s k).options = options := by
    obtain ⟨lines, hlines, rfl⟩ := eq_of_openRoot h
    exact options_after _ k
  have hnamed := named_after h k
  have hdistinct := distinct_after h k (by rw [hoptions, hdetect])
  cases htrouble with
  | tooDeep text target pending hpending hparse hcycle hdeep =>
    rw [hoptions] at hcycle hdeep
    have hfresh : path ∉ (Feed.after s k).stack.map FileHandle.path :=
      fun hmem => hcycle ⟨hdetect, hmem⟩
    have hpath : path ∈ names files root := by
      refine hnamed.ahead top (by rw [hstack]; exact List.mem_cons_self) path ?_
      rw [hpending]
      exact ⟨text, List.mem_cons_self, hparse⟩
    have hmore := length_le_ncard hfinite (List.nodup_cons.mpr ⟨hfresh, hdistinct⟩)
      (List.forall_mem_cons.mpr ⟨hpath, List.forall_mem_map.mpr hnamed.path⟩)
    rw [List.length_cons, List.length_map] at hmore
    omega

/-- Every scan comes to its end. If what there is to read is finite and the scan checks for cycles,
then the names that occur bound it, and the limit on the depth is not needed. -/
theorem scan_ends_within_names (files : FileSystem) (options : ScanOptions) (root : String)
    (s : Scanner) (hfinite : (contents files).Finite)
    (h : Scanner.openRoot files options root = .ok s) :
    (∃ n ≤ s.effort, ∀ k, (Feed.after s k).next.1 = none ↔ n ≤ k) ∧
      (options.detectCycles = true → BoundedByNames files root s) := by
  constructor
  · refine ⟨s.items.length, length_items_le_effort s, fun k => ?_⟩
    rw [← getElem?_items, List.getElem?_eq_none_iff]
  · intro hdetect
    have hnames := finite_names hfinite root
    obtain ⟨lines, hlines, hitems⟩ := items_openRoot h
    have hoptions : s.options = options := by
      obtain ⟨lines, hlines, rfl⟩ := eq_of_openRoot h
      rfl
    have hnamed : ∀ k, ∀ p ∈ (Feed.after s k).stack.map FileHandle.path, p ∈ names files root :=
      fun k => List.forall_mem_map.mpr (named_after h k).path
    have hdistinct : ∀ k, ((Feed.after s k).stack.map FileHandle.path).Nodup := fun k =>
      distinct_after h k (by rw [options_after, hoptions, hdetect])
    refine ⟨hnames, hdistinct, hnamed, fun k => ?_, fun hlimit => ?_, fun lines' hlines' => ?_⟩
    · rw [← List.length_map FileHandle.path]
      exact length_le_ncard hnames (hdistinct k) (hnamed k)
    · rw [hoptions] at hlimit
      exact not_tooDeep_of_names h hdetect hnames hlimit
    · obtain rfl := Except.ok.inj (hlines.symm.trans hlines')
      rw [hitems]
      refine Nat.succ_le_succ (length_rest_lt hdetect hnames root [] 0 lines _
        (List.nodup_singleton root) (List.forall_mem_singleton.mpr (.inl rfl))
        (fun p hp => .inr ⟨root, lines, hlines, hp⟩) (Nat.le_of_pred_lt (Nat.lt_succ_self _))).le

/-- Two files, the second of which includes itself under another spelling of its path. -/
def aliasedFiles : MemoryStore where
  files :=
    [("a", utf8Bytes "#include \"d/b\"\n"), ("d/b", utf8Bytes "1\n#include \"d\\b\"\n")]

theorem scan_ends_within_names_aliases :
    ∃ s, Scanner.openRoot aliasedFiles.fileSystem {} "a" = .ok s ∧
      (contents aliasedFiles.fileSystem).Finite ∧
      (∃ n ≤ s.effort, ∀ k, (Feed.after s k).next.1 = none ↔ n ≤ k) ∧
      BoundedByNames aliasedFiles.fileSystem "a" s := by
  have hfinite := finite_contents_memory aliasedFiles
  have hnormal : MemoryStore.normalize "a" = "a" := by decide
  have hcontent : aliasedFiles.content? "a" = some (utf8Bytes "#include \"d/b\"\n") := by
    rw [MemoryStore.content?, hnormal]
    rfl
  obtain ⟨s, hs⟩ : ∃ s, Scanner.openRoot aliasedFiles.fileSystem {} "a" = .ok s := by
    simp only [Scanner.openRoot, FileHandle.openFile, MemoryStore.outcomes_fileSystem, hcontent,
      Except.ok.injEq, exists_eq']
  obtain ⟨hends, hbounded⟩ := scan_ends_within_names aliasedFiles.fileSystem {} "a" s hfinite hs
  exact ⟨s, hs, hfinite, hends, hbounded rfl⟩

end Scan

end SourceSplice.Proofs
