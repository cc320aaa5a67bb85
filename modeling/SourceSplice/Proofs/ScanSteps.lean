import SourceSplice.Proofs.ScanExpansion
/-!
# The steps of a scan, by what they come to

`Advances` says once what a step of the scanner can come to, with the state behind it written out.
What every state of a scan has in common is proved from it by cases, and no proof opens a step again.
-/

namespace SourceSplice.Proofs

/-- What ends a scan that is about to read on in the file `top`. -/
inductive Trouble (s : Scanner) (top : FileHandle) : ScanError → Prop where
  | unreadable (fault : Fault) (pending : List (Except Fault String)) :
    top.pending = .error fault :: pending →
      Trouble s top (.cannotRead top.path top.currentLine fault)
  | malformed (text : String) (pending : List (Except Fault String)) (cause : DirectiveError) :
    top.pending = .ok text :: pending → Directive.parse text = .error cause →
      Trouble s top (.malformed ⟨top.path, top.currentLine + 1⟩ text cause)
  | cycle (text target : String) (pending : List (Except Fault String)) :
    top.pending = .ok text :: pending → Directive.parse text = .ok (.inclusion target) →
      s.options.detectCycles = true → target ∈ s.stack.map FileHandle.path →
      Trouble s top (.cycle target ⟨top.path, top.currentLine + 1⟩)
  | tooDeep (text target : String) (pending : List (Except Fault String)) :
    top.pending = .ok text :: pending → Directive.parse text = .ok (.inclusion target) →
      ¬(s.options.detectCycles = true ∧ target ∈ s.stack.map FileHandle.path) →
      s.options.maxIncludeDepth < s.stack.length →
      Trouble s top
        (.tooDeep target ⟨top.path, top.currentLine + 1⟩ s.options.maxIncludeDepth)
  | unopened (text target : String) (pending : List (Except Fault String)) (fault : Fault) :
    top.pending = .ok text :: pending → Directive.parse text = .ok (.inclusion target) →
      ¬(s.options.detectCycles = true ∧ target ∈ s.stack.map FileHandle.path) →
      ¬s.options.maxIncludeDepth < s.stack.length → s.files.outcomes target = .error fault →
      Trouble s top (.cannotOpen target (some ⟨top.path, top.currentLine + 1⟩) fault)

/-- The file after a line was read off it. -/
def lineRead (top : FileHandle) (pending : List (Except Fault String)) : FileHandle :=
  { top with currentLine := top.currentLine + 1, pending }

/-- The paths that a scan has asked for when it ends in an error. -/
def requestsAt (s : Scanner) : ScanError → List String
  | .cannotOpen path _ _ => path :: s.requests
  | _ => s.requests

/-- A step of a scanner, by what it comes to. -/
inductive Advances (s : Scanner) : Option ScanItem → Scanner → Prop where
  | halted : s.stack = [] → Advances s none s
  | opens (top : FileHandle) (below : List FileHandle) :
    s.stack = top :: below → s.entered = false →
      Advances s (some (.ok (.fileChange top.path))) { s with entered := true }
  | finishes (top : FileHandle) :
    s.stack = [top] → s.entered = true → top.pending = [] → Advances s none { s with stack := [] }
  | returns (top parent : FileHandle) (below : List FileHandle) :
    s.stack = top :: parent :: below → s.entered = true → top.pending = [] →
      Advances s (some (.ok (.fileChange parent.path))) { s with stack := parent :: below }
  | reads (top : FileHandle) (below : List FileHandle) (text : String)
      (pending : List (Except Fault String)) :
    s.stack = top :: below → s.entered = true → top.pending = .ok text :: pending →
      Directive.parse text = .ok .plain →
      Advances s (some (.ok (.line text (top.currentLine + 1))))
        { s with stack := lineRead top pending :: below }
  | enters (top : FileHandle) (below : List FileHandle) (text target : String)
      (pending lines : List (Except Fault String)) :
    s.stack = top :: below → s.entered = true → top.pending = .ok text :: pending →
      Directive.parse text = .ok (.inclusion target) →
      ¬(s.options.detectCycles = true ∧ target ∈ s.stack.map FileHandle.path) →
      ¬s.options.maxIncludeDepth < s.stack.length → s.files.outcomes target = .ok lines →
      Advances s (some (.ok (.fileChange target)))
        { s with
          stack := { path := target, pending := lines } :: lineRead top pending :: below
          filesOpened := s.filesOpened + 1
          maxDepth := max s.maxDepth (s.stack.length + 1)
          requests := target :: s.requests }
  | fails (top : FileHandle) (below : List FileHandle) (e : ScanError) :
    s.stack = top :: below → s.entered = true → Trouble s top e →
      Advances s (some (.error e)) { s with stack := [], requests := requestsAt s e }

variable {s : Scanner} {top : FileHandle} {below : List FileHandle} {text : String}
  {pending : List (Except Fault String)}

/-- The test for a cycle looks at the paths on the stack, which reading a line leaves alone. -/
lemma cycleTest_iff (hstack : s.stack = top :: below) (pending : List (Except Fault String))
    (target : String) :
    (s.options.detectCycles && (lineRead top pending :: below).any (·.path == target)) = true ↔
      s.options.detectCycles = true ∧ target ∈ s.stack.map FileHandle.path := by
  have hpaths : s.stack.map FileHandle.path = (lineRead top pending :: below).map FileHandle.path := by
    rw [hstack]
    rfl
  rw [hpaths, Bool.and_eq_true, List.any_eq_true, List.mem_map]
  simp only [beq_iff_eq]

lemma advances_enter {target : String} (hstack : s.stack = top :: below)
    (hentered : s.entered = true) (hpending : top.pending = .ok text :: pending)
    (hparse : Directive.parse text = .ok (.inclusion target)) :
    let step := { s with stack := lineRead top pending :: below }.enter target
      ⟨top.path, top.currentLine + 1⟩
    Advances s step.1 step.2 := by
  intro step
  have hcycle := cycleTest_iff hstack pending target
  have hlength : (lineRead top pending :: below).length = s.stack.length := by rw [hstack]; rfl
  simp only [step, Scanner.enter, hcycle, hlength]
  split
  · rename_i hc
    exact .fails top below _ hstack hentered (.cycle text target pending hpending hparse hc.1 hc.2)
  · rename_i hc
    split
    · rename_i hd
      exact .fails top below _ hstack hentered (.tooDeep text target pending hpending hparse hc hd)
    · rename_i hd
      simp only [FileHandle.openFile]
      cases hlines : s.files.outcomes target with
      | error fault =>
        exact .fails top below _ hstack hentered
          (.unopened text target pending fault hpending hparse hc hd hlines)
      | ok lines =>
        have henters := Advances.enters top below text target pending lines hstack hentered hpending
          hparse hc hd hlines
        simpa only [List.length_cons, hlength, hstack] using henters

lemma advances_takeLine (hstack : s.stack = top :: below) (hentered : s.entered = true)
    (hpending : top.pending = .ok text :: pending) :
    let step := { s with stack := lineRead top pending :: below }.takeLine text
      ⟨top.path, top.currentLine + 1⟩
    Advances s step.1 step.2 := by
  intro step
  simp only [step, Scanner.takeLine]
  cases hparse : Directive.parse text with
  | error cause =>
    exact .fails top below _ hstack hentered (.malformed text pending cause hpending hparse)
  | ok d =>
    cases d with
    | plain => exact .reads top below text pending hstack hentered hpending hparse
    | inclusion target => exact advances_enter hstack hentered hpending hparse

lemma advances_next (s : Scanner) : Advances s s.next.1 s.next.2 := by
  obtain ⟨files, options, root, entered, stack, filesOpened, maxDepth, requests⟩ := s
  cases stack with
  | nil => exact .halted rfl
  | cons top below =>
    cases entered with
    | false => exact .opens top below rfl rfl
    | true =>
      obtain ⟨path, n, pending, exhausted⟩ := top
      rcases pending with _ | ⟨fault | text, pending⟩
      · cases below with
        | nil => exact .finishes _ rfl rfl rfl
        | cons parent below => exact .returns _ parent below rfl rfl rfl
      · exact .fails _ below _ rfl rfl (.unreadable fault pending rfl)
      · exact advances_takeLine (s := ⟨files, options, root, true, _, _, _, _⟩) rfl rfl rfl

section Steps

variable {x : Option ScanItem} {t : Scanner}

lemma next_of_line (hstack : s.stack = top :: below) (hentered : s.entered = true)
    (hpending : top.pending = .ok text :: pending) :
    s.next = { s with stack := lineRead top pending :: below }.takeLine text
      ⟨top.path, top.currentLine + 1⟩ := by
  simp only [Scanner.next, hstack, hentered, if_true, FileHandle.nextLine, hpending, lineRead]

lemma Trouble.next_eq {e : ScanError} (hstack : s.stack = top :: below) (hentered : s.entered = true)
    (h : Trouble s top e) :
    s.next = (some (.error e), { s with stack := [], requests := requestsAt s e }) := by
  cases h with
  | unreadable fault pending hpending =>
    simp only [Scanner.next, hstack, hentered, if_true, FileHandle.nextLine, hpending,
      Scanner.fail, requestsAt]
  | malformed text pending cause hpending hparse =>
    rw [next_of_line hstack hentered hpending]
    simp only [Scanner.takeLine, hparse, Scanner.fail, requestsAt]
  | cycle text target pending hpending hparse hdetect hmem =>
    have htest := (cycleTest_iff hstack pending target).mpr ⟨hdetect, hmem⟩
    rw [next_of_line hstack hentered hpending]
    simp only [Scanner.takeLine, hparse, Scanner.enter, if_pos htest, Scanner.fail, requestsAt]
  | tooDeep text target pending hpending hparse hcycle hdeep =>
    have htest := mt (cycleTest_iff hstack pending target).mp hcycle
    rw [hstack, List.length_cons] at hdeep
    rw [next_of_line hstack hentered hpending]
    simp only [Scanner.takeLine, hparse, Scanner.enter, if_neg htest, List.length_cons,
      if_pos hdeep, Scanner.fail, requestsAt]
  | unopened text target pending fault hpending hparse hcycle hdeep hlines =>
    have htest := mt (cycleTest_iff hstack pending target).mp hcycle
    rw [hstack, List.length_cons] at hdeep
    rw [next_of_line hstack hentered hpending]
    simp only [Scanner.takeLine, hparse, Scanner.enter, if_neg htest, List.length_cons,
      if_neg hdeep, FileHandle.openFile, hlines, Scanner.fail, requestsAt]

lemma Advances.next_eq (h : Advances s x t) : s.next = (x, t) := by
  cases h with
  | halted hstack => simp only [Scanner.next, hstack]
  | opens top below hstack hentered =>
    simp only [Scanner.next, hstack, hentered, Bool.false_eq_true, if_false]
  | finishes top hstack hentered hpending =>
    simp only [Scanner.next, hstack, hentered, if_true, FileHandle.nextLine, hpending,
      List.head?_nil, Option.map_none]
  | returns top parent below hstack hentered hpending =>
    simp only [Scanner.next, hstack, hentered, if_true, FileHandle.nextLine, hpending,
      List.head?_cons, Option.map_some]
  | reads top below text pending hstack hentered hpending hparse =>
    rw [next_of_line hstack hentered hpending]
    simp only [Scanner.takeLine, hparse]
  | enters top below text target pending lines hstack hentered hpending hparse hcycle hdeep hlines =>
    have htest := mt (cycleTest_iff hstack pending target).mp hcycle
    rw [hstack, List.length_cons] at hdeep
    rw [next_of_line hstack hentered hpending]
    simp only [Scanner.takeLine, hparse, Scanner.enter, if_neg htest, List.length_cons,
      if_neg hdeep, FileHandle.openFile, hlines, hstack]
  | fails top below e hstack hentered htrouble => exact htrouble.next_eq hstack hentered

end Steps

section Runs

variable {x : Option ScanItem} {t : Scanner}

lemma Advances.files_eq (h : Advances s x t) : t.files = s.files := by
  cases h <;> rfl

lemma Advances.options_eq (h : Advances s x t) : t.options = s.options := by
  cases h <;> rfl

lemma after_succ (s : Scanner) (k : Nat) : Feed.after s (k + 1) = (Feed.after s k).next.2 :=
  Feed.after_succ s k

lemma after_induction {P : Scanner → Prop} (hs : P s)
    (hstep : ∀ s x t, Advances s x t → P s → P t) (k : Nat) : P (Feed.after s k) := by
  induction k with
  | zero => exact hs
  | succ k ih =>
    rw [after_succ]
    exact hstep _ _ _ (advances_next _) ih

lemma options_after (s : Scanner) (k : Nat) : (Feed.after s k).options = s.options :=
  after_induction (P := fun t => t.options = s.options) rfl
    (fun _ _ _ h hs => h.options_eq.trans hs) k

lemma files_after (s : Scanner) (k : Nat) : (Feed.after s k).files = s.files :=
  after_induction (P := fun t => t.files = s.files) rfl (fun _ _ _ h hs => h.files_eq.trans hs) k

lemma getElem?_items (s : Scanner) (k : Nat) : s.items[k]? = (Feed.after s k).next.1 := by
  rw [items_eq_itemsAhead, next_after]

lemma Advances.trouble {e : ScanError} (h : Advances s (some (.error e)) t) :
    ∃ top below, s.stack = top :: below ∧ Trouble s top e := by
  cases h with
  | fails top below _ hstack _ htrouble => exact ⟨top, below, hstack, htrouble⟩

lemma Advances.halts {e : ScanError} (h : Advances s (some (.error e)) t) :
    t.stack = [] ∧ t.maxDepth = s.maxDepth := by
  cases h
  exact ⟨rfl, rfl⟩

lemma Advances.openReaders_eq (h : Advances s none t) : t.openReaders = 0 := by
  cases h with
  | halted hstack =>
    rw [Scanner.openReaders, hstack]
    rfl
  | finishes top _ _ _ => rfl

lemma openReaders_run (s : Scanner) : s.run.2.openReaders = 0 := by
  induction s using Scanner.run.induct with
  | case1 s last _ hnext =>
    have hadv := advances_next s
    rw [hnext] at hadv
    rw [Scanner.run_of_next_none hnext]
    exact hadv.openReaders_eq
  | case2 s x rest _ hnext _ xs last _ ih =>
    rw [Scanner.run_of_next_some hnext]
    exact ih

lemma trouble_of_mem_items {e : ScanError} (h : .error e ∈ s.items) :
    ∃ k top below, (Feed.after s k).stack = top :: below ∧ Trouble (Feed.after s k) top e := by
  obtain ⟨k, hk⟩ := List.mem_iff_getElem?.mp h
  rw [getElem?_items] at hk
  have hadv := advances_next (Feed.after s k)
  rw [hk] at hadv
  exact ⟨k, hadv.trouble⟩

lemma eq_of_openRoot {files : FileSystem} {options : ScanOptions} {root : String}
    (h : Scanner.openRoot files options root = .ok s) :
    ∃ lines, files.outcomes root = .ok lines ∧
      s = { files, options, root, stack := [{ path := root, pending := lines }]
            requests := [root] } := by
  unfold Scanner.openRoot FileHandle.openFile at h
  cases hlines : files.outcomes root with
  | error fault =>
    rw [hlines] at h
    cases h
  | ok lines =>
    rw [hlines] at h
    exact ⟨lines, rfl, (Except.ok.inj h).symm⟩

end Runs

end SourceSplice.Proofs
