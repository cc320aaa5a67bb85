import Mathlib
import SourceSplice.Expansion
/-!
# A scan gives the expansion of its root

The scanner is a machine with a stack of half read files, and the expansion is a recursion over the
tree of includes. `itemsAhead s` reads off a stack what the calls that it stands for still have to
give; every step of the scanner takes the first item off it. So a scan draws exactly the expansion
of its root file, then nothing for ever.
-/

namespace SourceSplice.Proofs
open Expansion

@[simp] lemma followedBy_nil_left (ys : List ScanItem) : followedBy [] ys = ys := rfl

@[simp] lemma followedBy_ok_cons (e : Event) (xs ys : List ScanItem) :
    followedBy (.ok e :: xs) ys = .ok e :: followedBy xs ys := rfl

@[simp] lemma followedBy_error_cons (e : ScanError) (xs ys : List ScanItem) :
    followedBy (.error e :: xs) ys = [.error e] := rfl

lemma followedBy_assoc (xs ys zs : List ScanItem) :
    followedBy (followedBy xs ys) zs = followedBy xs (followedBy ys zs) := by
  induction xs with
  | nil => rfl
  | cons x xs ih =>
    cases x with
    | ok e => simp only [followedBy_ok_cons, ih]
    | error e => rfl

lemma rest_plain {files : FileSystem} {options : ScanOptions} {path : String} {above : List String}
    {n : Nat} {text : String} {pending : List (Except Fault String)}
    (hparse : Directive.parse text = .ok .plain) :
    rest files options path above n (.ok text :: pending) =
      .ok (.line text (n + 1)) :: rest files options path above (n + 1) pending := by
  rw [rest, hparse]

lemma rest_included {files : FileSystem} {options : ScanOptions} {path : String}
    {above : List String} {n : Nat} {text target : String}
    {pending lines : List (Except Fault String)}
    (hparse : Directive.parse text = .ok (.inclusion target))
    (hcycle : ¬(options.detectCycles = true ∧ target ∈ path :: above))
    (hdeep : ¬options.maxIncludeDepth < (path :: above).length)
    (hlines : files.outcomes target = .ok lines) :
    rest files options path above n (.ok text :: pending) =
      .ok (.fileChange target)
        :: followedBy (rest files options target (path :: above) 0 lines)
          (.ok (.fileChange path) :: rest files options path above (n + 1) pending) := by
  rw [rest, hparse]
  simp only [if_neg hcycle, dif_neg hdeep, hlines]

/-- Every error in a list of items stands at its end. -/
def EndsAtError (xs : List ScanItem) : Prop :=
  ∀ before e after, xs = before ++ .error e :: after → after = []

lemma endsAtError_nil : EndsAtError [] := by
  intro before e after h
  simp at h

lemma endsAtError_singleton (e : ScanError) : EndsAtError [.error e] := by
  intro before e' after h
  cases before with
  | nil => exact (List.cons.inj h).2.symm
  | cons x before => simp at h

lemma endsAtError_ok_cons {xs : List ScanItem} (e : Event) (h : EndsAtError xs) :
    EndsAtError (.ok e :: xs) := by
  intro before e' after hxs
  cases before with
  | nil => simp at hxs
  | cons x before => exact h before e' after (List.cons.inj hxs).2

lemma EndsAtError.of_cons {x : ScanItem} {xs : List ScanItem} (h : EndsAtError (x :: xs)) :
    EndsAtError xs :=
  fun before e after hxs => h (x :: before) e after (congrArg (x :: ·) hxs)

lemma EndsAtError.exists_events {xs : List ScanItem} (h : EndsAtError xs) :
    ∃ events : List Event,
      xs = events.map .ok ∨ ∃ e : ScanError, xs = events.map .ok ++ [.error e] := by
  induction xs with
  | nil => exact ⟨[], .inl rfl⟩
  | cons x xs ih =>
    cases x with
    | error e =>
      obtain rfl := h [] e xs rfl
      exact ⟨[], .inr ⟨e, rfl⟩⟩
    | ok e =>
      obtain ⟨events, rfl | ⟨e', rfl⟩⟩ := ih h.of_cons
      · exact ⟨e :: events, .inl rfl⟩
      · exact ⟨e :: events, .inr ⟨e', rfl⟩⟩

lemma map_ok_ne_concat_error (events before : List Event) (e : ScanError) :
    events.map (.ok : Event → ScanItem) ≠ before.map .ok ++ [.error e] := by
  intro h
  have hmem : .error e ∈ events.map (.ok : Event → ScanItem) := by
    rw [h]
    exact List.mem_append_right _ (List.mem_singleton_self _)
  obtain ⟨x, -, hx⟩ := List.mem_map.mp hmem
  cases hx

lemma map_ok_injective : Function.Injective (List.map (.ok : Event → ScanItem)) :=
  List.map_injective_iff.mpr fun _ _ => Except.ok.inj

lemma endsAtError_followedBy (xs : List ScanItem) {ys : List ScanItem} (hy : EndsAtError ys) :
    EndsAtError (followedBy xs ys) := by
  induction xs with
  | nil => exact hy
  | cons x xs ih =>
    cases x with
    | ok e => exact endsAtError_ok_cons e ih
    | error e => exact endsAtError_singleton e

lemma followedBy_nil_right {xs : List ScanItem} (h : EndsAtError xs) : followedBy xs [] = xs := by
  induction xs with
  | nil => rfl
  | cons x xs ih =>
    cases x with
    | ok e =>
      rw [followedBy_ok_cons, ih h.of_cons]
    | error e => rw [followedBy_error_cons, h [] e xs rfl]

lemma endsAtError_rest (files : FileSystem) (options : ScanOptions) (path : String)
    (above : List String) (linesRead : Nat) (pending : List (Except Fault String)) :
    EndsAtError (rest files options path above linesRead pending) := by
  fun_induction rest files options path above linesRead pending with
  | case1 => exact endsAtError_nil
  | case2 => exact endsAtError_singleton _
  | case3 _ _ _ _ _ _ ih => exact endsAtError_ok_cons _ ih
  | case4 => exact endsAtError_singleton _
  | case5 => exact endsAtError_singleton _
  | case6 => exact endsAtError_singleton _
  | case7 => exact endsAtError_singleton _
  | case8 _ _ _ _ _ _ _ _ _ _ _ _ ih =>
    exact endsAtError_ok_cons _ (endsAtError_followedBy _ (endsAtError_ok_cons _ ih))

/-- What is still to come once the current file is at its end: a return to each of these files in
turn, each with the rest of it. -/
def itemsBelow (files : FileSystem) (options : ScanOptions) : List FileHandle → List ScanItem
  | [] => []
  | parent :: below =>
    .ok (.fileChange parent.path)
      :: followedBy
        (rest files options parent.path (below.map FileHandle.path) parent.currentLine
          parent.pending)
        (itemsBelow files options below)

/-- What the files of a stack still have to give: the rest of the current file, then what comes
once that is at its end. -/
def stackItems (files : FileSystem) (options : ScanOptions) : List FileHandle → List ScanItem
  | [] => []
  | top :: below =>
    followedBy (rest files options top.path (below.map FileHandle.path) top.currentLine top.pending)
      (itemsBelow files options below)

/-- What a scan under way still has to give. -/
def itemsAhead (s : Scanner) : List ScanItem :=
  if s.entered then stackItems s.files s.options s.stack
  else itemsBelow s.files s.options s.stack

/-- A scanner draws the items of a list if it gives the first of them and has the others ahead. -/
def Draws (step : Option ScanItem × Scanner) (items : List ScanItem) : Prop :=
  step.1 = items.head? ∧ itemsAhead step.2 = items.tail

lemma draws_fail (s : Scanner) (e : ScanError) : Draws (s.fail e) [.error e] := by
  refine ⟨rfl, ?_⟩
  cases h : s.entered
  · simp [itemsAhead, Scanner.fail, h, itemsBelow]
  · simp [itemsAhead, Scanner.fail, h, stackItems]

lemma draws_enter (s : Scanner) (target : String) (top : FileHandle) (below : List FileHandle)
    (n : Nat) (text : String) (hs : s.stack = top :: below) (he : s.entered = true)
    (hn : top.currentLine = n + 1) (hparse : Directive.parse text = .ok (.inclusion target)) :
    Draws (s.enter target ⟨top.path, n + 1⟩)
      (followedBy
        (rest s.files s.options top.path (below.map FileHandle.path) n (.ok text :: top.pending))
        (itemsBelow s.files s.options below)) := by
  have hcycle : (s.options.detectCycles && s.stack.any (·.path == target)) = true ↔
      s.options.detectCycles = true ∧ target ∈ top.path :: below.map FileHandle.path := by
    rw [hs, Bool.and_eq_true, List.any_eq_true, ← List.map_cons, List.mem_map]
    simp only [beq_iff_eq]
  have hlen : s.stack.length = (top.path :: below.map FileHandle.path).length := by
    rw [hs]
    simp only [List.length_cons, List.length_map]
  rw [rest, hparse]
  simp only [Scanner.enter, hcycle, hlen]
  split
  · exact draws_fail s _
  · split
    · exact draws_fail s _
    · simp only [FileHandle.openFile]
      cases s.files.outcomes target with
      | error fault => exact draws_fail _ _
      | ok lines =>
        refine ⟨rfl, ?_⟩
        simp only [itemsAhead, he, if_true, hs, stackItems, itemsBelow, List.map_cons, hn,
          followedBy_ok_cons, followedBy_assoc, List.tail_cons]

lemma draws_takeLine (s : Scanner) (top : FileHandle) (below : List FileHandle) (n : Nat)
    (text : String) (hs : s.stack = top :: below) (he : s.entered = true)
    (hn : top.currentLine = n + 1) :
    Draws (s.takeLine text ⟨top.path, n + 1⟩)
      (followedBy
        (rest s.files s.options top.path (below.map FileHandle.path) n (.ok text :: top.pending))
        (itemsBelow s.files s.options below)) := by
  unfold Scanner.takeLine
  cases hparse : Directive.parse text with
  | error cause =>
    rw [rest, hparse]
    exact draws_fail s _
  | ok d =>
    cases d with
    | plain =>
      rw [rest, hparse]
      refine ⟨rfl, ?_⟩
      simp only [itemsAhead, he, if_true, hs, stackItems, hn, followedBy_ok_cons, List.tail_cons]
    | inclusion target => exact draws_enter s target top below n text hs he hn hparse

theorem next_draws_itemsAhead (s : Scanner) : Draws s.next (itemsAhead s) := by
  obtain ⟨files, options, root, entered, stack, filesOpened, maxDepth, requests⟩ := s
  cases stack with
  | nil => cases entered <;> exact ⟨rfl, rfl⟩
  | cons top below =>
    cases entered with
    | false => exact ⟨rfl, rfl⟩
    | true =>
      obtain ⟨path, n, pending, exhausted⟩ := top
      rcases pending with _ | ⟨fault | text, pending⟩
      · -- the current file is at its end
        cases below with
        | nil =>
          refine ⟨?_, ?_⟩ <;>
            simp [Scanner.next, FileHandle.nextLine, itemsAhead, stackItems, itemsBelow, rest]
        | cons parent below =>
          refine ⟨?_, ?_⟩ <;>
            simp [Scanner.next, FileHandle.nextLine, itemsAhead, stackItems, itemsBelow, rest]
      · simp only [itemsAhead, if_true, stackItems, rest, followedBy_error_cons]
        exact draws_fail _ _
      · exact draws_takeLine
          { files, options, root, entered := true, filesOpened, maxDepth, requests
            stack := ⟨path, n + 1, pending, exhausted⟩ :: below }
          ⟨path, n + 1, pending, exhausted⟩ below n text rfl rfl rfl

lemma itemsAhead_after (s : Scanner) (k : Nat) :
    itemsAhead (Feed.after s k) = (itemsAhead s).drop k := by
  induction k generalizing s with
  | zero => rfl
  | succ k ih =>
    have htail : itemsAhead (Feed.next s).2 = (itemsAhead s).tail := (next_draws_itemsAhead s).2
    rw [Feed.after, ih, htail, List.drop_tail]

lemma next_after (s : Scanner) (k : Nat) : (Feed.after s k).next.1 = (itemsAhead s)[k]? := by
  rw [(next_draws_itemsAhead _).1, itemsAhead_after, List.head?_drop]

lemma items_eq_itemsAhead (s : Scanner) : s.items = itemsAhead s := by
  unfold Scanner.items
  induction s using Scanner.run.induct with
  | case1 s last _ hnext =>
    have hhead := (next_draws_itemsAhead s).1
    rw [hnext] at hhead
    rw [Scanner.run_of_next_none hnext, List.head?_eq_none_iff.mp hhead.symm]
  | case2 s x s' _ hnext _ xs last _ ih =>
    obtain ⟨hhead, htail⟩ := next_draws_itemsAhead s
    rw [hnext] at hhead htail
    rw [Scanner.run_of_next_some hnext, ih, htail, List.cons_head?_tail hhead.symm]

lemma endsAtError_items (s : Scanner) : EndsAtError s.items := by
  have hbelow : ∀ stack, EndsAtError (itemsBelow s.files s.options stack) := by
    intro stack
    induction stack with
    | nil => exact endsAtError_nil
    | cons parent below ih => exact endsAtError_ok_cons _ (endsAtError_followedBy _ ih)
  rw [items_eq_itemsAhead, itemsAhead]
  split
  · cases s.stack with
    | nil => exact endsAtError_nil
    | cons top below => exact endsAtError_followedBy _ (hbelow below)
  · exact hbelow s.stack

lemma itemsAhead_openRoot {files : FileSystem} {options : ScanOptions} {root : String} {s : Scanner}
    (h : Scanner.openRoot files options root = .ok s) :
    ∃ lines, files.outcomes root = .ok lines ∧
      itemsAhead s = ofRoot files options root lines := by
  unfold Scanner.openRoot FileHandle.openFile at h
  cases hlines : files.outcomes root with
  | error fault =>
    rw [hlines] at h
    cases h
  | ok lines =>
    rw [hlines] at h
    cases h
    refine ⟨lines, rfl, ?_⟩
    simp only [itemsAhead, Bool.false_eq_true, if_false, itemsBelow, List.map_nil, ofRoot]
    rw [followedBy_nil_right (endsAtError_rest files options root [] 0 lines)]

lemma items_openRoot {files : FileSystem} {options : ScanOptions} {root : String} {s : Scanner}
    (h : Scanner.openRoot files options root = .ok s) :
    ∃ lines, files.outcomes root = .ok lines ∧ s.items = ofRoot files options root lines := by
  rw [items_eq_itemsAhead]
  exact itemsAhead_openRoot h

lemma endsAtError_ofRoot (files : FileSystem) (options : ScanOptions) (root : String)
    (lines : List (Except Fault String)) : EndsAtError (ofRoot files options root lines) :=
  endsAtError_ok_cons _ (endsAtError_rest files options root [] 0 lines)

/-- A scan whose root opens draws the expansion of the root, one item at a time and nothing more
after the last one; that is an error if there is any. -/
theorem scan_draws_expansion (files : FileSystem) (options : ScanOptions) (root : String)
    (s : Scanner) (h : Scanner.openRoot files options root = .ok s) :
    ∃ lines, files.outcomes root = .ok lines ∧
      s.items = ofRoot files options root lines ∧
      EndsAtError s.items ∧
      ∀ k, (Feed.after s k).next.1 = (ofRoot files options root lines)[k]? := by
  obtain ⟨lines, hlines, hahead⟩ := itemsAhead_openRoot h
  have hitems : s.items = ofRoot files options root lines := by
    rw [items_eq_itemsAhead, hahead]
  refine ⟨lines, hlines, hitems, ?_, ?_⟩
  · rw [hitems]
    exact endsAtError_ofRoot files options root lines
  · intro k
    rw [next_after, hahead]

/-- A file that includes a second one before its own line. -/
def includingFiles : FileSystem where
  isFile path := path == "a" || path == "b"
  openFile path :=
    if path = "a" then
      .ok (.ofBytes [35, 105, 110, 99, 108, 117, 100, 101, 32, 34, 98, 34, 10, 120, 10])
    else if path = "b" then .ok (.ofBytes [121])
    else .error (.pathNotFound path)

/-- The same files, but the first one goes on with a byte that is no text. -/
def brokenFiles : FileSystem where
  isFile := includingFiles.isFile
  openFile path :=
    if path = "a" then
      .ok (.ofBytes [35, 105, 110, 99, 108, 117, 100, 101, 32, 34, 98, 34, 10, 120, 10, 255])
    else includingFiles.openFile path

lemma outcomes_includingFiles :
    includingFiles.outcomes "a" = .ok [.ok "#include \"b\"", .ok "x"] := by
  decide +kernel

lemma outcomes_brokenFiles : brokenFiles.outcomes "a" =
    .ok [.ok "#include \"b\"", .ok "x", .error .invalidEncoding] := by
  decide +kernel

/-- What a scan tells of these files, up to that byte. -/
def includingEvents : List Event :=
  [.fileChange "a", .fileChange "b", .line "y" 1, .fileChange "a", .line "x" 2]

lemma items_includingFiles {s : Scanner} (h : Scanner.openRoot includingFiles {} "a" = .ok s) :
    s.items = includingEvents.map .ok := by
  obtain ⟨lines, hlines, hitems⟩ := items_openRoot h
  obtain rfl := Except.ok.inj (outcomes_includingFiles.symm.trans hlines)
  rw [hitems]
  cbv

lemma items_brokenFiles {s : Scanner} (h : Scanner.openRoot brokenFiles {} "a" = .ok s) :
    s.items = includingEvents.map .ok ++ [.error (.cannotRead "a" 2 .invalidEncoding)] := by
  obtain ⟨lines, hlines, hitems⟩ := items_openRoot h
  obtain rfl := Except.ok.inj (outcomes_brokenFiles.symm.trans hlines)
  rw [hitems]
  cbv

theorem scan_draws_expansion_brokenFiles :
    ∃ s, Scanner.openRoot brokenFiles {} "a" = .ok s ∧
      s.items =
        [.ok (.fileChange "a"), .ok (.fileChange "b"), .ok (.line "y" 1), .ok (.fileChange "a"),
          .ok (.line "x" 2), .error (.cannotRead "a" 2 .invalidEncoding)] ∧
      ∀ k, (Feed.after s (k + 6)).next.1 = none := by
  obtain ⟨s, hs⟩ : ∃ s, Scanner.openRoot brokenFiles {} "a" = .ok s := ⟨_, rfl⟩
  obtain ⟨lines, -, hitems, -, hdraws⟩ := scan_draws_expansion brokenFiles {} "a" s hs
  refine ⟨s, hs, items_brokenFiles hs, ?_⟩
  intro k
  rw [hdraws, ← hitems, items_brokenFiles hs]
  rfl

end SourceSplice.Proofs
