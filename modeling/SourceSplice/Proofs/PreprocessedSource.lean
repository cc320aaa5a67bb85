import SourceSplice.FileSystem.Memory
import SourceSplice.Proofs.LineReading
import SourceSplice.Proofs.ScanSteps
/-!
# Preprocessing what was preprocessed

The text that preprocessing gives has no directives left, and it is read back line by line as it was put
together. So preprocessing it once more gives it again, whatever the options are.
-/

namespace SourceSplice.Proofs
open Expansion

variable {files : FileSystem} {options : ScanOptions} {root : String} {out : Preprocessed}
  {texts : List String}

section Plain

/-- The events of lines without a directive, if so many lines are behind. -/
def lineEvents (linesRead : Nat) : List String → List Event
  | [] => []
  | text :: texts => .line text (linesRead + 1) :: lineEvents (linesRead + 1) texts

lemma run_plain {s : Scanner} {top : FileHandle} (hstack : s.stack = [top])
    (hentered : s.entered = true) (hpending : top.pending = texts.map .ok)
    (hplain : ∀ text ∈ texts, Directive.parse text = .ok .plain) :
    s.run = ((lineEvents top.currentLine texts).map .ok, { s with stack := [] }) := by
  induction texts generalizing s top with
  | nil =>
    have hadv := Advances.finishes top hstack hentered hpending
    exact Scanner.run_of_next_none hadv.next_eq
  | cons text texts ih =>
    obtain ⟨htext, htexts⟩ := List.forall_mem_cons.mp hplain
    have hadv := Advances.reads top [] text (texts.map .ok) hstack hentered hpending htext
    have hrest := ih (s := { s with stack := [lineRead top (texts.map .ok)] }) rfl hentered rfl htexts
    rw [Scanner.run_of_next_some hadv.next_eq, hrest]
    rfl

lemma run_plain_root {s : Scanner} {top : FileHandle} (hstack : s.stack = [top])
    (hentered : s.entered = false) (hpending : top.pending = texts.map .ok)
    (hplain : ∀ text ∈ texts, Directive.parse text = .ok .plain) :
    s.run = (.ok (.fileChange top.path) :: (lineEvents top.currentLine texts).map .ok,
      { s with entered := true, stack := [] }) := by
  have hadv := Advances.opens top [] hstack hentered
  have hrest := run_plain (s := { s with entered := true }) hstack rfl hpending hplain
  rw [Scanner.run_of_next_some hadv.next_eq, hrest]

lemma addAll_lineEvents (p : Preprocessed) (n : Nat) (texts : List String) :
    p.addAll ((lineEvents n texts).map .ok) =
      .ok { p with
        source := p.source ++ asLines texts
        events := p.events + texts.length
        lines := p.lines + texts.length } := by
  induction texts generalizing p n with
  | nil =>
    simp only [lineEvents, List.map_nil, Preprocessed.addAll, asLines, String.append_empty,
      List.length_nil, Nat.add_zero]
  | cons text texts ih =>
    simp only [lineEvents, List.map_cons, Preprocessed.addAll, ih, Preprocessed.add, asLines,
      String.append_assoc, List.length_cons, Nat.add_assoc, Nat.add_comm 1]

lemma preprocess_plain (hfile : files.isFile root = true)
    (hlines : files.outcomes root = .ok (texts.map .ok))
    (hplain : ∀ text ∈ texts, Directive.parse text = .ok .plain) :
    preprocess files options root =
      .ok { source := asLines texts, events := texts.length + 1, lines := texts.length
            files := [root], maxDepth := 1 } := by
  have hstart : Scanner.start files options root = .ok
      { files, options, root, stack := [{ path := root, pending := texts.map .ok }]
        requests := [root] } := by
    simp only [Scanner.start, hfile, if_true, Scanner.openRoot, FileHandle.openFile, hlines]
  have hrun : ∀ s : Scanner, s.stack = [{ path := root, pending := texts.map .ok }] →
      s.entered = false →
      s.run = (.ok (.fileChange root) :: (lineEvents 0 texts).map .ok,
        { s with entered := true, stack := [] }) :=
    fun s hstack hentered => run_plain_root hstack hentered rfl hplain
  unfold preprocess
  simp only [hstart]
  rw [hrun _ rfl rfl]
  simp only [Preprocessed.addAll, addAll_lineEvents, Preprocessed.add,
    String.empty_append, Nat.zero_add, Nat.add_comm 1]
  rfl

end Plain

section Lines

lemma mem_followedBy {x : ScanItem} {xs ys : List ScanItem} (h : x ∈ followedBy xs ys) :
    x ∈ xs ∨ x ∈ ys := by
  induction xs with
  | nil => exact .inr h
  | cons y xs ih =>
    cases y with
    | ok e =>
      rw [followedBy_ok_cons, List.mem_cons] at h
      rcases h with rfl | h
      · exact .inl List.mem_cons_self
      · exact (ih h).imp_left (List.mem_cons_of_mem _)
    | error e =>
      rw [followedBy_error_cons, List.mem_singleton] at h
      rw [h]
      exact .inl List.mem_cons_self

lemma lineFeed_not_mem_of_outcomes {lines : List (Except Fault String)}
    (h : files.outcomes root = .ok lines) (text : String) (hmem : .ok text ∈ lines) :
    '\n' ∉ text.toList := by
  unfold FileSystem.outcomes at h
  cases hopen : files.openFile root with
  | error fault =>
    rw [hopen] at h
    cases h
  | ok r =>
    rw [hopen] at h
    cases h
    exact lineFeed_not_mem_of_mem_outcomes hmem

lemma plain_of_mem_rest {path text : String} {above : List String} {k n : Nat}
    {pending : List (Except Fault String)}
    (hpending : ∀ line, .ok line ∈ pending → '\n' ∉ line.toList)
    (h : .ok (.line text n) ∈ rest files options path above k pending) :
    Directive.parse text = .ok .plain ∧ '\n' ∉ text.toList := by
  fun_induction rest files options path above k pending with
  | case1 => cases h
  | case3 path above k line pending hparse ih =>
    rcases List.mem_cons.mp h with hline | h
    · cases hline
      exact ⟨hparse, hpending text List.mem_cons_self⟩
    · exact ih (fun line' hmem => hpending line' (List.mem_cons_of_mem _ hmem)) h
  | case8 path above k line pending target hparse hcycle hdeep lines hlines ihInner ihAfter =>
    rcases List.mem_cons.mp h with hchange | h
    · cases hchange
    rcases mem_followedBy h with h | h
    · exact ihInner (lineFeed_not_mem_of_outcomes hlines) h
    · rcases List.mem_cons.mp h with hchange | h
      · cases hchange
      · exact ihAfter (fun line' hmem => hpending line' (List.mem_cons_of_mem _ hmem)) h
  | _ =>
    have herror := List.mem_singleton.mp h
    cases herror

lemma openRoot_of_start {s : Scanner} (h : Scanner.start files options root = .ok s) :
    Scanner.openRoot files options root = .ok s := by
  unfold Scanner.start at h
  split at h
  · cases hopen : Scanner.openRoot files options root with
    | error e =>
      rw [hopen] at h
      cases h
    | ok s' =>
      rw [hopen] at h
      cases h
      rfl
  · cases h

lemma readersLeft_eq_zero (files : FileSystem) (options : ScanOptions) (root : String) :
    readersLeft files options root = 0 := by
  unfold readersLeft
  cases Scanner.start files options root with
  | error e => rfl
  | ok s => exact openReaders_run s

lemma plain_of_mem_items {s : Scanner} (hs : Scanner.start files options root = .ok s)
    {text : String} {n : Nat} (h : .ok (.line text n) ∈ s.items) :
    Directive.parse text = .ok .plain ∧ '\n' ∉ text.toList := by
  obtain ⟨lines, hlines, hitems⟩ := items_openRoot (openRoot_of_start hs)
  rw [hitems, ofRoot, List.mem_cons] at h
  rcases h with hchange | h
  · cases hchange
  · exact plain_of_mem_rest (lineFeed_not_mem_of_outcomes hlines) h

lemma exists_fold_of_preprocess (h : preprocess files options root = .ok out) :
    ∃ (s : Scanner) (events : List Event) (folded : Preprocessed),
      Scanner.start files options root = .ok s ∧ s.items = events.map .ok ∧
      Preprocessed.addAll {} (events.map .ok) = .ok folded ∧
      out = { folded with maxDepth := s.run.2.maxDepth } := by
  unfold preprocess at h
  cases hs : Scanner.start files options root with
  | error e =>
    rw [hs] at h
    cases h
  | ok s =>
    rw [hs] at h
    simp only at h
    obtain ⟨events, hitems | ⟨e, hitems⟩⟩ := (endsAtError_items s).exists_events
    · have hrun : s.run.1 = events.map .ok := hitems
      rw [hrun] at h
      cases hadd : Preprocessed.addAll {} (events.map .ok) with
      | error e =>
        rw [hadd] at h
        cases h
      | ok folded =>
        rw [hadd] at h
        cases h
        exact ⟨s, events, folded, rfl, hitems, hadd, rfl⟩
    · have hrun : s.run.1 = events.map .ok ++ [.error e] := hitems
      rw [hrun, addAll_concat_error] at h
      cases h

lemma exists_events_of_preprocess (h : preprocess files options root = .ok out) :
    ∃ (s : Scanner) (events : List Event), Scanner.start files options root = .ok s ∧
      s.items = events.map .ok ∧
      out.source = asLines (events.filterMap Event.sourceLine?) ∧
      out.lines = (events.filterMap Event.sourceLine?).length := by
  obtain ⟨s, events, folded, hs, hitems, hadd, rfl⟩ := exists_fold_of_preprocess h
  refine ⟨s, events, hs, hitems, ?_, ?_⟩
  · exact (addAll_source events hadd).trans String.empty_append
  · exact (addAll_lines events hadd).trans (Nat.zero_add _)

lemma mem_sourceLines {events : List Event} {text : String}
    (h : text ∈ events.filterMap Event.sourceLine?) :
    ∃ n, .ok (.line text n) ∈ events.map (.ok : Event → ScanItem) := by
  obtain ⟨e, he, htext⟩ := List.mem_filterMap.mp h
  cases e with
  | line text' n =>
    cases htext
    exact ⟨n, List.mem_map_of_mem he⟩
  | fileChange path => cases htext

lemma content?_ofFiles_singleton {name path : String} (bytes : List UInt8)
    (h : MemoryStore.normalize path = MemoryStore.normalize name) :
    (MemoryStore.ofFiles [(name, bytes)]).content? path = some bytes := by
  rw [MemoryStore.content?, h]
  exact List.lookup_cons_self

/-- Preprocessing a store whose only file holds what preprocessing gave before, under whatever spelling
of its path and whatever options, gives the same text in as many lines. -/
theorem preprocess_own_source (files : FileSystem) (options : ScanOptions) (root : String)
    (out : Preprocessed) (h : preprocess files options root = .ok out)
    (hreturn : ∀ s, Scanner.start files options root = .ok s → ∀ text n,
      .ok (.line text n) ∈ s.items → text.toList.getLast? ≠ some '\r')
    (options' : ScanOptions) (name path : String)
    (hname : MemoryStore.normalize path = MemoryStore.normalize name) :
    preprocess (MemoryStore.ofFiles [(name, utf8Bytes out.source)]).fileSystem options' path =
      .ok { source := out.source, events := out.lines + 1, lines := out.lines, files := [path]
            maxDepth := 1 } := by
  obtain ⟨s, events, hs, hitems, hsource, hlines⟩ := exists_events_of_preprocess h
  have htexts : ∀ text ∈ events.filterMap Event.sourceLine?, Directive.parse text = .ok .plain ∧
      '\n' ∉ text.toList ∧ text.toList.getLast? ≠ some '\r' := by
    intro text htext
    obtain ⟨n, hn⟩ := mem_sourceLines htext
    rw [← hitems] at hn
    obtain ⟨hplain, hfeed⟩ := plain_of_mem_items hs hn
    exact ⟨hplain, hfeed, hreturn s hs text n hn⟩
  have hcontent := content?_ofFiles_singleton (utf8Bytes out.source) hname
  have hread : (MemoryStore.ofFiles [(name, utf8Bytes out.source)]).fileSystem.outcomes path =
      .ok ((events.filterMap Event.sourceLine?).map .ok) := by
    rw [MemoryStore.outcomes_fileSystem, hcontent]
    simp only [hsource]
    rw [outcomes_asLines _ fun text htext => (htexts text htext).2]
  rw [hlines]
  refine (preprocess_plain ?_ hread fun text htext => (htexts text htext).1).trans ?_
  · exact congrArg Option.isSome hcontent
  · rw [hsource]

/-- A file whose lines end in each of the ways there are, with a blank one and an include. -/
def mixedFiles : MemoryStore where
  files := [("a", utf8Bytes "#include \"d/b\"\r\n\r\nx\ry"), ("d/b", utf8Bytes " é\n")]

theorem preprocess_own_source_mixed :
    preprocess mixedFiles.fileSystem {} "a" =
        .ok { source := " é\n\nx\ry\n", events := 6, lines := 3, files := ["a", "d/b"]
              maxDepth := 2 } ∧
      (∀ s, Scanner.start mixedFiles.fileSystem {} "a" = .ok s → ∀ text n,
        .ok (.line text n) ∈ s.items → text.toList.getLast? ≠ some '\r') ∧
      MemoryStore.normalize "o\\c" = MemoryStore.normalize "o/c" ∧
      preprocess (MemoryStore.ofFiles [("o/c", utf8Bytes " é\n\nx\ry\n")]).fileSystem
          { maxIncludeDepth := 0, detectCycles := false } "o\\c" =
        .ok { source := " é\n\nx\ry\n", events := 4, lines := 3, files := ["o\\c"]
              maxDepth := 1 } := by
  have hout : preprocess mixedFiles.fileSystem {} "a" =
      .ok { source := " é\n\nx\ry\n", events := 6, lines := 3, files := ["a", "d/b"]
            maxDepth := 2 } := by
    decide +kernel
  have hitems : (Scanner.start mixedFiles.fileSystem {} "a").map Scanner.items =
      .ok [.ok (.fileChange "a"), .ok (.fileChange "d/b"), .ok (.line " é" 1),
        .ok (.fileChange "a"), .ok (.line "" 2), .ok (.line "x\ry" 3)] := by
    decide +kernel
  have hreturn : ∀ s, Scanner.start mixedFiles.fileSystem {} "a" = .ok s → ∀ text n,
      .ok (.line text n) ∈ s.items → text.toList.getLast? ≠ some '\r' := by
    intro s hs text n hline
    rw [hs] at hitems
    rw [Except.ok.inj hitems] at hline
    simp only [List.mem_cons, Except.ok.injEq, Event.line.injEq, reduceCtorEq, List.not_mem_nil,
      or_false, false_or] at hline
    rcases hline with ⟨rfl, -⟩ | ⟨rfl, -⟩ | ⟨rfl, -⟩ <;> decide +kernel
  have hname : MemoryStore.normalize "o\\c" = MemoryStore.normalize "o/c" := by decide +kernel
  exact ⟨hout, hreturn, hname, preprocess_own_source _ _ _ _ hout hreturn
    { maxIncludeDepth := 0, detectCycles := false } "o/c" "o\\c" hname⟩

end Lines

end SourceSplice.Proofs
