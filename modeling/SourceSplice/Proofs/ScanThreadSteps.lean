import Mathlib.Tactic
import SourceSplice.Scanner.Threads
/-!
# What the threads of a scan do

`FileMove` and `ScanMove` list what a step of the thread of an open file, and one of the scanning
thread, can come to, with what is known at it. Every property of the threads of a scan is proved
over these lists.
-/

namespace SourceSplice.Proofs
open Scanner

/-- What a step of the thread of a file can come to, while it keeps its reader or is without. -/
inductive FileMove : OpenFile → OpenFile → Prop where
  | read (f : OpenFile) (x : Except Fault String) (pending : List (Except Fault String)) :
    f.position = .reading → f.pending = x :: pending →
      FileMove f { f with pending, position := .offering x }
  | atEnd (f : OpenFile) : f.position = .reading → FileMove f { f with position := .leaving }
  | put (f : OpenFile) (x : Except Fault String) :
    f.position = .offering x →
      FileMove f { f with out := { f.out with slot := some x }, position := .settling x }
  | refused (f : OpenFile) (x : Except Fault String) :
    f.position = .offering x → FileMove f { f with position := .leaving }
  | settled (f : OpenFile) (x : Except Fault String) (p : ReaderAt) :
    f.position = .settling x → p = .checking ∨ p = .leaving →
      FileMove f { f with out := { f.out with slot := none }, position := p }
  | checked (f : OpenFile) (p : ReaderAt) :
    f.position = .checking → p = .reading ∨ p = .leaving → FileMove f { f with position := p }
  | closed (f : OpenFile) :
    f.position = .closing → FileMove f { f with out := f.out.close, position := .ended }

/-- What a step of the scanning thread can come to. -/
inductive ScanMove : Threads → Threads → Prop where
  | checked (t : Threads) (p : ScannerAt) :
    t.scanning = .checking → p = .leaving ∨ p = .drawing → ScanMove t { t with scanning := p }
  | drawn (t : Threads) (top : OpenFile) (below : List OpenFile) (text : String) :
    t.scanning = .drawing → t.stack = top :: below → top.out.slot = some (.ok text) →
      ScanMove t
        { t with
          stack := { top with
            out := { top.out with slot := none }, linesRead := top.linesRead + 1 } :: below
          scanning := .acting text }
  | failed (t : Threads) (top : OpenFile) (below : List OpenFile) (fault : Fault)
      (e : ScanError) :
    t.scanning = .drawing → t.stack = top :: below → top.out.slot = some (.error fault) →
      ScanMove t
        { t with
          stack := { top with out := { top.out with slot := none } } :: below
          scanning := .offering (.error e) }
  | met (t : Threads) (top : OpenFile) (below : List OpenFile) :
    t.scanning = .drawing → t.stack = top :: below → top.out.closed = true →
      ScanMove t { t with scanning := .joining }
  | returned (t : Threads) (top : OpenFile) (below : List OpenFile) (p : ScannerAt) :
    t.scanning = .joining → t.stack = top :: below → top.position = .ended →
      p = .leaving ∨ below ≠ [] ∧ (∃ x, p = .offering x) →
      ScanMove t { t with stack := below, scanning := p }
  | acted (t : Threads) (text : String) (x : ScanItem) :
    t.scanning = .acting text → ScanMove t { t with scanning := .offering x }
  | opened (t : Threads) (text path : String) (inner : List (Except Fault String)) :
    t.scanning = .acting text → included? t.files (.ok text) = some inner →
      t.stack.length ≤ t.options.maxIncludeDepth →
      ScanMove t
        { t with
          scanning := .entering { path, reader := t.opened, pending := inner }
          openReaders := t.openReaders + 1
          opened := t.opened + 1 }
  | entered (t : Threads) (file : OpenFile) (x : ScanItem) :
    t.scanning = .entering file →
      ScanMove t { t with stack := file :: t.stack, scanning := .offering x }
  | put (t : Threads) (x : ScanItem) :
    t.scanning = .offering x →
      ScanMove t { t with out := { t.out with slot := some x }, scanning := .settling x }
  | refused (t : Threads) (x : ScanItem) :
    t.scanning = .offering x → t.out.cancelled = true → ScanMove t { t with scanning := .leaving }
  | settled (t : Threads) (x : ScanItem) (p : ScannerAt) :
    t.scanning = .settling x → t.out.senderWaits = false → p = .leaving ∨ p = .checking →
      ScanMove t { t with out := { t.out with slot := none }, scanning := p }
  | gaveUp (t : Threads) (above : List OpenFile) (file : OpenFile) :
    t.scanning = .leaving → t.stack = above ++ [file] →
      ScanMove t
        { t with
          stack := above ++ [{ file with out := file.out.cancel }]
          scanning := .awaiting }
  | awaited (t : Threads) (above : List OpenFile) (file : OpenFile) :
    t.scanning = .awaiting → t.stack = above ++ [file] → file.position = .ended →
      ScanMove t { t with stack := above, scanning := .leaving }
  | closed (t : Threads) :
    t.scanning = .leaving → t.stack = [] →
      ScanMove t { t with out := t.out.close, scanning := .ended }

section Channel

variable {α : Type} {c : Channel α}

lemma settle_channel (c : Channel α) : c.settle.2 = { c with slot := none } := by
  unfold Channel.settle
  cases hslot : c.slot with
  | some x => rfl
  | none => simp only [← hslot]

lemma receiverWaits_eq_false_iff :
    c.receiverWaits = false ↔ c.slot.isSome = true ∨ c.closed = true := by
  unfold Channel.receiverWaits
  cases c.slot <;> cases c.closed <;> simp

lemma senderWaits_eq_false_iff :
    c.senderWaits = false ↔ c.slot = none ∨ c.cancelled = true := by
  unfold Channel.senderWaits
  cases c.slot <;> cases c.cancelled <;> simp

end Channel

variable {f g : OpenFile} {t u : Threads}

lemma fileMove_of_step (h : OpenFile.Step f g) : FileMove f g := by
  cases h with
  | read hpos =>
    unfold OpenFile.read
    split
    · exact .atEnd f hpos
    · rename_i x pending hpending
      exact .read f x pending hpos hpending
  | offer x hpos _ =>
    unfold OpenFile.offer Channel.offer
    by_cases hcan : f.out.cancelled = true
    · rw [if_pos hcan]
      exact .refused f x hpos
    · rw [if_neg hcan]
      exact .put f x hpos
  | settle x hpos _ =>
    unfold OpenFile.settle
    rw [← Prod.mk.eta (p := f.out.settle), settle_channel]
    generalize f.out.settle.1 = result
    cases result with
    | error e => exact .settled f x _ hpos (.inr rfl)
    | ok _ =>
      cases x with
      | ok text => exact .settled f _ _ hpos (.inl rfl)
      | error fault => exact .settled f _ _ hpos (.inr rfl)
  | check hpos =>
    unfold OpenFile.check
    refine .checked f _ hpos ?_
    by_cases hcan : f.out.cancelled = true
    · exact .inr (if_pos hcan)
    · exact .inl (if_neg hcan)
  | close hpos => exact .closed f hpos

lemma scanMove_draw {top : OpenFile} {below : List OpenFile} (hpos : t.scanning = .drawing)
    (hstack : t.stack = top :: below) (hgo : top.out.receiverWaits = false) :
    ScanMove t (t.draw top below) := by
  unfold Threads.draw Channel.take
  cases hslot : top.out.slot with
  | some x =>
    cases x with
    | ok text => exact .drawn t top below text hpos hstack hslot
    | error fault => exact .failed t top below fault _ hpos hstack hslot
  | none =>
    rw [receiverWaits_eq_false_iff, hslot] at hgo
    exact .met t top below hpos hstack (hgo.resolve_left nofun)

lemma scanMove_act {text : String} {top : OpenFile} (hpos : t.scanning = .acting text) :
    ScanMove t (t.act text top) := by
  unfold Threads.act
  cases hparse : Directive.parse text with
  | error cause => exact .acted t text _ hpos
  | ok directive =>
    cases directive with
    | plain => exact .acted t text _ hpos
    | inclusion path =>
      simp only [Threads.enter]
      split_ifs with hcycle hdeep
      · exact .acted t text _ hpos
      · exact .acted t text _ hpos
      · unfold openCounted
        cases hopen : t.files.outcomes path with
        | error fault => exact .acted t text _ hpos
        | ok inner =>
          refine .opened t text path inner hpos ?_ (not_lt.mp hdeep)
          simp only [included?, hparse, hopen]
          rfl

lemma scanMove_of_step (h : Threads.ScanStep t u) : ScanMove t u := by
  cases h with
  | check hpos =>
    refine .checked t _ hpos ?_
    by_cases hcan : t.out.cancelled = true
    · exact .inl (if_pos hcan)
    · exact .inr (if_neg hcan)
  | draw top below hpos hstack hgo => exact scanMove_draw hpos hstack hgo
  | join top below hpos hstack hended =>
    unfold Threads.leaveFile
    cases below with
    | nil => exact .returned t top [] _ hpos hstack hended (.inl rfl)
    | cons parent below =>
      exact .returned t top _ _ hpos hstack hended (.inr ⟨nofun, _, rfl⟩)
  | act text top below hpos _ => exact scanMove_act hpos
  | enter file hpos => exact .entered t file _ hpos
  | offer x hpos _ =>
    unfold Threads.offer Channel.offer
    by_cases hcan : t.out.cancelled = true
    · rw [if_pos hcan]
      exact .refused t x hpos hcan
    · rw [if_neg hcan]
      exact .put t x hpos
  | settle x hpos hgo =>
    unfold Threads.settle
    rw [← Prod.mk.eta (p := t.out.settle), settle_channel]
    generalize t.out.settle.1 = result
    cases result with
    | error e => exact .settled t x _ hpos hgo (.inl rfl)
    | ok _ =>
      cases x with
      | ok event => exact .settled t _ _ hpos hgo (.inr rfl)
      | error e => exact .settled t _ _ hpos hgo (.inl rfl)
  | giveUp above file hpos hstack => exact .gaveUp t above file hpos hstack
  | await above file hpos hstack hended => exact .awaited t above file hpos hstack hended
  | close hpos hstack => exact .closed t hpos hstack

variable {files : FileSystem} {options : ScanOptions} {root : String} {before n : Nat}

lemma start_of_opened {pending : List (Except Fault String)}
    (h : files.outcomes root = .ok pending) :
    Threads.start files options root before =
      (.ok
        { files, options
          stack := []
          scanning := .entering { path := root, reader := 0, pending }
          openReaders := before + 1
          opened := 1 }, before + 1) := by
  rw [Threads.start, openCounted, h]

lemma start_of_fault {fault : Fault} (h : files.outcomes root = .error fault) :
    Threads.start files options root before =
      (.error (.cannotOpen root none fault), before) := by
  rw [Threads.start, openCounted, h]

lemma start_ok (h : Threads.start files options root before = (.ok t, n)) :
    ∃ pending, n = before + 1 ∧ t =
      { files, options
        stack := []
        scanning := .entering { path := root, reader := 0, pending }
        openReaders := before + 1
        opened := 1 } := by
  cases hopen : files.outcomes root with
  | error fault =>
    rw [start_of_fault hopen] at h
    cases h
  | ok pending =>
    rw [start_of_opened hopen] at h
    cases h
    exact ⟨pending, rfl, rfl⟩

lemma start_error {e : ScanError} (h : Threads.start files options root before = (.error e, n)) :
    n = before := by
  cases hopen : files.outcomes root with
  | error fault =>
    rw [start_of_fault hopen] at h
    cases h
    rfl
  | ok pending =>
    rw [start_of_opened hopen] at h
    cases h

end SourceSplice.Proofs
