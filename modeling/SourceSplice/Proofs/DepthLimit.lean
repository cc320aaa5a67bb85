import SourceSplice.Proofs.ScanReplay
import SourceSplice.Proofs.ScanTruncation
/-!
# Scanning under a higher limit on the depth

A scan takes the same steps under a higher limit, up to the include at which its own limit stops it.
So the limit only cuts off what a scan gives: nothing else depends on it.
-/

namespace SourceSplice.Proofs

def withLimit (s : Scanner) (limit : Nat) : Scanner :=
  { s with options := { s.options with maxIncludeDepth := limit } }

section Steps

variable {s t : Scanner} {x : Option ScanItem} {limit : Nat}

lemma Trouble.withLimit {top : FileHandle} {e : ScanError} (h : Trouble s top e)
    (hlimit : s.options.maxIncludeDepth ≤ limit) :
    IsTooDeep s.options.maxIncludeDepth e ∨ Trouble (withLimit s limit) top e := by
  cases h with
  | unreadable fault pending hpending => exact .inr (.unreadable fault pending hpending)
  | malformed text pending cause hpending hparse =>
    exact .inr (.malformed text pending cause hpending hparse)
  | cycle text target pending hpending hparse hdetect hmem =>
    exact .inr (.cycle text target pending hpending hparse hdetect hmem)
  | tooDeep => exact .inl (.intro _ _)
  | unopened text target pending fault hpending hparse hcycle hdeep hlines =>
    refine .inr (.unopened text target pending fault hpending hparse hcycle (fun hlt => ?_) hlines)
    exact hdeep (hlimit.trans_lt hlt)

lemma Advances.withLimit (h : Advances s x t) (hlimit : s.options.maxIncludeDepth ≤ limit) :
    (∃ e, x = some (.error e) ∧ IsTooDeep s.options.maxIncludeDepth e) ∨
      Advances (withLimit s limit) x (withLimit t limit) := by
  cases h with
  | halted hstack => exact .inr (.halted hstack)
  | opens top below hstack hentered => exact .inr (.opens top below hstack hentered)
  | finishes top hstack hentered hpending => exact .inr (.finishes top hstack hentered hpending)
  | returns top parent below hstack hentered hpending =>
    exact .inr (.returns top parent below hstack hentered hpending)
  | reads top below text pending hstack hentered hpending hparse =>
    exact .inr (.reads top below text pending hstack hentered hpending hparse)
  | enters top below text target pending lines hstack hentered hpending hparse hcycle hdeep hlines =>
    refine .inr (.enters top below text target pending lines hstack hentered hpending hparse hcycle
      (fun hlt => ?_) hlines)
    exact hdeep (hlimit.trans_lt hlt)
  | fails top below e hstack hentered htrouble =>
    rcases htrouble.withLimit hlimit with htooDeep | htrouble
    · exact .inl ⟨e, rfl, htooDeep⟩
    · exact .inr (.fails top below e hstack hentered htrouble)

lemma Advances.maxDepth_le (h : Advances s x t) : s.maxDepth ≤ t.maxDepth := by
  cases h with
  | enters => exact le_max_left _ _
  | _ => exact le_rfl

end Steps

section Runs

variable {s t : Scanner} {limit : Nat}

lemma run_of_halted (h : s.stack = []) : s.run = ([], s) :=
  Scanner.run_of_next_none (Advances.halted h).next_eq

lemma maxDepth_le_run (s : Scanner) : s.maxDepth ≤ s.run.2.maxDepth := by
  induction s using Scanner.run.induct with
  | case1 s last _ hnext =>
    have hstep := (advances_next s).maxDepth_le
    rw [hnext] at hstep
    rw [Scanner.run_of_next_none hnext]
    exact hstep
  | case2 s x rest _ hnext _ xs last _ ih =>
    have hstep := (advances_next s).maxDepth_le
    rw [hnext] at hstep
    rw [Scanner.run_of_next_some hnext]
    exact hstep.trans ih

/-- The first scan is stopped by its limit, and the second one gets at least as far. -/
structure GivesUp (s t : Scanner) : Prop where
  items : ∃ (events : List Event) (e : ScanError), IsTooDeep s.options.maxIncludeDepth e ∧
    s.items = events.map .ok ++ [.error e] ∧ events.map .ok <+: t.items
  maxDepth : s.run.2.maxDepth ≤ t.run.2.maxDepth

lemma GivesUp.cons {s' t' : Scanner} {e : Event} (h : GivesUp s' t')
    (hs : s.next = (some (.ok e), s')) (ht : t.next = (some (.ok e), t'))
    (hoptions : s'.options = s.options) : GivesUp s t := by
  obtain ⟨⟨events, e', he, hitems, hbefore⟩, hdepth⟩ := h
  unfold Scanner.items at hitems hbefore
  refine ⟨⟨e :: events, e', hoptions ▸ he, ?_, ?_⟩, ?_⟩
  · rw [Scanner.items, Scanner.run_of_next_some hs, hitems]
    rfl
  · rw [Scanner.items, Scanner.run_of_next_some ht]
    exact List.cons_prefix_cons.mpr ⟨rfl, hbefore⟩
  · rw [Scanner.run_of_next_some hs, Scanner.run_of_next_some ht]
    exact hdepth

lemma givesUp_of_tooDeep {e : ScanError} (h : Advances s (some (.error e)) t)
    (he : IsTooDeep s.options.maxIncludeDepth e) : GivesUp s (withLimit s limit) := by
  obtain ⟨hstack, hdepth⟩ := h.halts
  have hrun : s.run = ([.error e], t) := by
    rw [Scanner.run_of_next_some h.next_eq, run_of_halted hstack]
  refine ⟨⟨[], e, he, ?_, List.nil_prefix⟩, ?_⟩
  · rw [Scanner.items, hrun]
    rfl
  · rw [hrun, hdepth]
    exact maxDepth_le_run (withLimit s limit)

lemma run_withLimit (s : Scanner) (hlimit : s.options.maxIncludeDepth ≤ limit) :
    GivesUp s (withLimit s limit) ∨
      (withLimit s limit).run = (s.run.1, withLimit s.run.2 limit) := by
  induction s using Scanner.run.induct with
  | case1 s last _ hnext =>
    right
    have hadv := advances_next s
    rw [hnext] at hadv
    obtain ⟨e, he, -⟩ | hadv' := hadv.withLimit hlimit
    · cases he
    · rw [Scanner.run_of_next_none hnext, Scanner.run_of_next_none hadv'.next_eq]
  | case2 s x rest _ hnext _ xs last _ ih =>
    have hadv := advances_next s
    rw [hnext] at hadv
    obtain ⟨e, hx, he⟩ | hadv' := hadv.withLimit hlimit
    · obtain rfl := Option.some.inj hx
      exact .inl (givesUp_of_tooDeep hadv he)
    · rw [Scanner.run_of_next_some hnext, Scanner.run_of_next_some hadv'.next_eq]
      rcases ih (hadv.options_eq ▸ hlimit) with hgives | hrest
      · cases x with
        | ok e => exact .inl (hgives.cons hnext hadv'.next_eq hadv.options_eq)
        | error e =>
          -- after an error there is nothing left that could be given up
          obtain ⟨⟨events, e', -, hitems, -⟩, -⟩ := hgives
          rw [Scanner.items, run_of_halted hadv.halts.1] at hitems
          exact absurd hitems.symm (List.append_ne_nil_of_right_ne_nil _ (List.cons_ne_nil _ _))
      · rw [hrest]
        exact .inr rfl

end Runs

section Scan

variable {files : FileSystem} {options : ScanOptions} {root : String} {s t : Scanner}

/-- What a scan under a higher limit gives, compared with one under a lower limit. -/
structure OnlyTruncates (low high : Scanner) : Prop where
  same : (∀ path site n, low.items.getLast? ≠ some (.error (.tooDeep path site n))) →
    high.items = low.items ∧ high.run.2.maxDepth = low.run.2.maxDepth ∧
      high.run.2.filesOpened = low.run.2.filesOpened
  before : ∀ path site n, low.items.getLast? = some (.error (.tooDeep path site n)) →
    low.items.dropLast <+: high.items ∧ low.run.2.maxDepth ≤ high.run.2.maxDepth

/-- A scan is about to read a line that includes a file, and the file would stand so many levels above
the root. -/
inductive ReadsInclude (s : Scanner) (path : String) : (site : Site) → (level : Nat) → Prop where
  | intro (top : FileHandle) (below : List FileHandle) (text : String)
      (pending : List (Except Fault String)) :
    s.stack = top :: below → top.pending = .ok text :: pending →
      Directive.parse text = .ok (.inclusion path) →
      ReadsInclude s path ⟨top.path, top.currentLine + 1⟩ (below.length + 1)

structure KeepsLimit (limit : Nat) (s : Scanner) : Prop where
  /-- The root is the last file on the stack, and there are only so many above it. -/
  above_le : ∀ k, (Feed.after s k).stack.dropLast.length ≤ limit
  tooDeep : ∀ k path site n, (Feed.after s k).next.1 = some (.error (.tooDeep path site n)) →
    n = limit ∧ ReadsInclude (Feed.after s k) path site (limit + 1)

lemma Advances.length_le (h : Advances s x t) (hs : s.stack.length ≤ s.options.maxIncludeDepth + 1) :
    t.stack.length ≤ t.options.maxIncludeDepth + 1 := by
  cases h with
  | halted => exact hs
  | opens => exact hs
  | finishes => exact Nat.zero_le _
  | returns top parent below hstack =>
    rw [hstack, List.length_cons] at hs
    exact (Nat.le_succ _).trans hs
  | reads top below text pending hstack =>
    rw [hstack] at hs
    exact hs
  | enters top below text target pending lines hstack _ _ _ _ hdeep =>
    rw [hstack] at hdeep
    simp only [List.length_cons] at hdeep ⊢
    omega
  | fails => exact Nat.zero_le _

lemma keepsLimit_openRoot (h : Scanner.openRoot files options root = .ok s) :
    KeepsLimit options.maxIncludeDepth s := by
  have hoptions : s.options = options := by
    obtain ⟨lines, -, rfl⟩ := eq_of_openRoot h
    rfl
  have hlevel : ∀ k, (Feed.after s k).stack.length ≤ options.maxIncludeDepth + 1 := by
    intro k
    have hstart : s.stack.length ≤ s.options.maxIncludeDepth + 1 := by
      obtain ⟨lines, -, rfl⟩ := eq_of_openRoot h
      exact Nat.le_add_left 1 _
    have hk := after_induction hstart (fun _ _ _ hadv => hadv.length_le) k
    rwa [options_after, hoptions] at hk
  refine ⟨?_, ?_⟩
  · intro k
    rw [List.length_dropLast]
    exact Nat.sub_le_of_le_add (hlevel k)
  · intro k path site n hnext
    have hadv := advances_next (Feed.after s k)
    rw [hnext] at hadv
    obtain ⟨top, below, hstack, htrouble⟩ := hadv.trouble
    have hle := hlevel k
    have hoptions' := (options_after s k).trans hoptions
    cases htrouble with
    | tooDeep text target pending hpending hparse hcycle hdeep =>
      rw [hoptions'] at hdeep ⊢
      have hbelow : below.length = options.maxIncludeDepth := by
        rw [hstack, List.length_cons] at hdeep hle
        omega
      refine ⟨rfl, ?_⟩
      rw [← hbelow]
      exact .intro top below text pending hstack hpending hparse

lemma onlyTruncates_withLimit (s : Scanner) (limit : Nat) (h : s.options.maxIncludeDepth ≤ limit) :
    OnlyTruncates s (withLimit s limit) := by
  rcases run_withLimit s h with hgives | hrun
  · obtain ⟨⟨events, e, ⟨path, site⟩, hitems, hbefore⟩, hdepth⟩ := hgives
    refine ⟨?_, ?_⟩
    · intro hnot
      refine absurd ?_ (hnot path site s.options.maxIncludeDepth)
      rw [hitems, List.getLast?_concat]
    · intro _ _ _ _
      rw [hitems, List.dropLast_concat]
      exact ⟨hbefore, hdepth⟩
  · have hitems : (withLimit s limit).items = s.items := congrArg (·.1) hrun
    have hlast : (withLimit s limit).run.2 = withLimit s.run.2 limit := congrArg (·.2) hrun
    refine ⟨?_, ?_⟩
    · intro _
      rw [hlast]
      exact ⟨hitems, rfl, rfl⟩
    · intro _ _ _ _
      rw [hlast, hitems]
      exact ⟨List.dropLast_prefix _, le_rfl⟩

/-- A scan of a root under a higher limit gives the same, unless the lower limit stops the scan under
it; then it gives at least what came before. A limit allows for as many levels of includes as it says,
and it is met at the next one. -/
theorem depth_limit_only_truncates (files : FileSystem) (detectCycles : Bool) (limit higher : Nat)
    (root : String) (h : limit ≤ higher) :
    (∃ e, Scanner.openRoot files { maxIncludeDepth := limit, detectCycles } root = .error e ∧
      Scanner.openRoot files { maxIncludeDepth := higher, detectCycles } root = .error e) ∨
    ∃ low high,
      Scanner.openRoot files { maxIncludeDepth := limit, detectCycles } root = .ok low ∧
      Scanner.openRoot files { maxIncludeDepth := higher, detectCycles } root = .ok high ∧
      OnlyTruncates low high ∧ KeepsLimit limit low ∧ KeepsLimit higher high := by
  cases hroot : files.outcomes root with
  | error fault =>
    left
    refine ⟨.cannotOpen root none fault, ?_, ?_⟩ <;>
      simp only [Scanner.openRoot, FileHandle.openFile, hroot]
  | ok lines =>
    right
    have hopen : ∀ options, Scanner.openRoot files options root =
        .ok { files, options, root, stack := [{ path := root, pending := lines }]
              requests := [root] } := by
      intro options
      simp only [Scanner.openRoot, FileHandle.openFile, hroot]
    refine ⟨_, _, hopen _, hopen _, ?_, ?_, ?_⟩
    · exact onlyTruncates_withLimit _ higher h
    · exact keepsLimit_openRoot (hopen { maxIncludeDepth := limit, detectCycles })
    · exact keepsLimit_openRoot (hopen { maxIncludeDepth := higher, detectCycles })

/-- The root is all that may be open under the limit zero. -/
theorem depth_limit_only_truncates_including :
    ∃ low high,
      Scanner.openRoot includingFiles { maxIncludeDepth := 0 } "a" = .ok low ∧
      Scanner.openRoot includingFiles { maxIncludeDepth := 1 } "a" = .ok high ∧
      low.items = [.ok (.fileChange "a"), .error (.tooDeep "b" ⟨"a", 1⟩ 0)] ∧
      high.items = [.ok (.fileChange "a"), .ok (.fileChange "b"), .ok (.line "y" 1),
        .ok (.fileChange "a"), .ok (.line "x" 2)] ∧
      OnlyTruncates low high ∧ KeepsLimit 0 low ∧ KeepsLimit 1 high := by
  rcases depth_limit_only_truncates includingFiles true 0 1 "a" (Nat.zero_le 1) with
    ⟨e, he, -⟩ | ⟨low, high, hlow, hhigh, htruncates, hkeeps⟩
  · simp only [Scanner.openRoot, FileHandle.openFile, outcomes_includingFiles] at he
    cases he
  · refine ⟨low, high, hlow, hhigh, ?_, ?_, htruncates, hkeeps⟩
    · obtain ⟨lines, hlines, hitems⟩ := items_openRoot hlow
      obtain rfl := Except.ok.inj (outcomes_includingFiles.symm.trans hlines)
      rw [hitems]
      cbv
    · obtain ⟨lines, hlines, hitems⟩ := items_openRoot hhigh
      obtain rfl := Except.ok.inj (outcomes_includingFiles.symm.trans hlines)
      rw [hitems]
      cbv

end Scan

end SourceSplice.Proofs
