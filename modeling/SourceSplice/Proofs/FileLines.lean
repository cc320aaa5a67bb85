import Mathlib.Data.List.TakeWhile
import SourceSplice.FileHandle
import SourceSplice.FileSystem.Memory
import SourceSplice.Proofs.ReaderContent
/-!
# The lines of a file

A file gives the segments into which its line feeds cut its bytes, one line for each, up to the first
one that is no text. How the reader hands out the bytes does not matter, and a fault takes the place of
the line that it breaks off.
-/

namespace SourceSplice

/-- Some bytes, cut behind every line feed. -/
def segments : List UInt8 → List (List UInt8)
  | [] => []
  | b :: bytes =>
    if b = lineFeed then [b] :: segments bytes
    else
      match segments bytes with
      | [] => [[b]]
      | s :: ss => (b :: s) :: ss

/-- The segments whose line feed is among the first `n` bytes. -/
def segmentsWithin (n : Nat) (bytes : List UInt8) : List (List UInt8) :=
  (segments bytes).take ((bytes.take n).count lineFeed)

/-- Whether some bytes are valid UTF-8. -/
def isText (bytes : List UInt8) : Bool :=
  (String.fromUTF8? ⟨bytes.toArray⟩).isSome

/-- A line and what ended it: a line feed with one carriage return before it, if there is one, or
the end of the file. -/
structure TextLine where
  text : String
  terminator : String
  noFeed : '\n' ∉ text.toList
  terminator_eq : terminator = "\r\n" ∨
    (terminator = "\n" ∧ text.toList.getLast? ≠ some '\r') ∨ terminator = ""

def TextLine.bytes (l : TextLine) : List UInt8 :=
  utf8Bytes (l.text ++ l.terminator)

instance : Feed FileHandle (Except ScanError (String × Nat)) where
  next := FileHandle.nextLine

end SourceSplice

namespace SourceSplice.Proofs
open Reader

/-- A file gives these lines, then an error if there is a fault, and then nothing for good. -/
structure GivesLines (f : FileHandle) (lines : List TextLine) (fault : Option Fault) : Prop where
  line : ∀ k l, lines[k]? = some l →
    (Feed.after f k).nextLine.1 = some (.ok (l.text, f.currentLine + k + 1))
  currentLine : ∀ k, (Feed.after f k).currentLine = f.currentLine + min k lines.length
  ending : (Feed.after f lines.length).nextLine.1 =
    fault.map fun e => .error (.cannotRead f.path (f.currentLine + lines.length) e)
  behind : ∀ k, lines.length < k → (Feed.after f k).nextLine.1 = none

section Segments

variable {b : UInt8} {bytes line rest s : List UInt8}

lemma segments_feed (bytes : List UInt8) :
    segments (lineFeed :: bytes) = [lineFeed] :: segments bytes :=
  if_pos rfl

lemma segments_cons (hb : b ≠ lineFeed) (bytes : List UInt8) :
    segments (b :: bytes) = (b :: (segments bytes).headD []) :: (segments bytes).tail := by
  rw [segments, if_neg hb]
  cases segments bytes <;> rfl

lemma segments_append (h : lineFeed ∉ line) (hne : line ≠ []) (rest : List UInt8) :
    segments (line ++ rest) = (line ++ (segments rest).headD []) :: (segments rest).tail := by
  induction line with
  | nil => exact absurd rfl hne
  | cons b line ih =>
    rw [List.mem_cons, not_or] at h
    rw [List.cons_append, segments_cons (Ne.symm h.1)]
    by_cases hnil : line = []
    · rw [hnil]
      rfl
    · rw [ih h.2 hnil]
      rfl

lemma segments_line (h : lineFeed ∉ line) (rest : List UInt8) :
    segments (line ++ lineFeed :: rest) = (line ++ [lineFeed]) :: segments rest := by
  by_cases hnil : line = []
  · rw [hnil]
    exact segments_feed rest
  · rw [segments_append h hnil, segments_feed]
    rfl

lemma segments_last (h : lineFeed ∉ line) (hne : line ≠ []) : segments line = [line] := by
  have happend := segments_append h hne []
  simpa [segments] using happend

lemma take_segments_append (before after : List UInt8) :
    (segments (before ++ after)).take (before.count lineFeed) =
      (segments before).take (before.count lineFeed) := by
  induction before with
  | nil => rfl
  | cons b before ih =>
    rw [List.cons_append]
    by_cases hb : b = lineFeed
    · rw [hb, segments_feed, segments_feed, List.count_cons_self, List.take_succ_cons,
        List.take_succ_cons, ih]
    · rw [segments_cons hb, segments_cons hb, List.count_cons_of_ne hb]
      cases hcount : before.count lineFeed with
      | zero => rfl
      | succ n =>
        rw [hcount] at ih
        have hhead := congrArg List.head? ih
        have htail := congrArg List.tail ih
        rw [List.head?_take, List.head?_take, if_neg (Nat.succ_ne_zero n),
          if_neg (Nat.succ_ne_zero n)] at hhead
        rw [List.tail_take_eq_take_tail, List.tail_take_eq_take_tail, Nat.add_sub_cancel] at htail
        rw [List.take_succ_cons, List.take_succ_cons, List.headD_eq_head?_getD, hhead, htail,
          List.headD_eq_head?_getD]

lemma flatten_segments (bytes : List UInt8) : (segments bytes).flatten = bytes := by
  induction bytes with
  | nil => rfl
  | cons b bytes ih =>
    by_cases hb : b = lineFeed
    · rw [hb, segments_feed, List.flatten_cons, ih]
      rfl
    · rw [segments_cons hb, List.flatten_cons]
      nth_rewrite 3 [← ih]
      cases segments bytes <;> rfl

lemma segment_oneLine (h : s ∈ segments bytes) : s ≠ [] ∧ OneLine s := by
  induction bytes generalizing s with
  | nil => cases h
  | cons b bytes ih =>
    by_cases hb : b = lineFeed
    · rw [hb, segments_feed, List.mem_cons] at h
      rcases h with rfl | h
      · exact ⟨List.cons_ne_nil _ _, List.not_mem_nil⟩
      · exact ih h
    · rw [segments_cons hb, List.mem_cons] at h
      rcases h with rfl | h
      · refine ⟨List.cons_ne_nil _ _, ?_⟩
        have hrest : OneLine ((segments bytes).headD []) := by
          cases hsegments : segments bytes with
          | nil => exact List.not_mem_nil
          | cons s ss =>
            rw [hsegments] at ih
            exact (ih List.mem_cons_self).2
        have hb' : lineFeed ∉ [b] := by simpa using Ne.symm hb
        exact oneLine_append hb' hrest
      · exact ih (List.mem_of_mem_tail h)

end Segments

section Encoding

variable {bytes : List UInt8}

lemma isText_iff : isText bytes = true ↔ ∃ s : String, utf8Bytes s = bytes := by
  rw [isText, Option.isSome_iff_exists]
  exact exists_congr fun s => fromUTF8?_eq_some_iff

lemma isText_flatten {parts : List (List UInt8)} (h : ∀ s ∈ parts, isText s = true) :
    isText parts.flatten = true := by
  induction parts with
  | nil => exact isText_iff.mpr ⟨"", by rw [utf8Bytes_eq]; rfl⟩
  | cons s parts ih =>
    obtain ⟨hs, hparts⟩ := List.forall_mem_cons.mp h
    obtain ⟨text, rfl⟩ := isText_iff.mp hs
    obtain ⟨rest, hrest⟩ := isText_iff.mp (ih hparts)
    rw [List.flatten_cons, ← hrest, ← utf8Bytes_append]
    exact isText_iff.mpr ⟨_, rfl⟩

lemma segments_encoded (l : List Char) {s : List UInt8}
    (h : s ∈ segments (l.flatMap String.utf8EncodeChar)) :
    ∃ l' : List Char, s = l'.flatMap String.utf8EncodeChar := by
  induction l generalizing s with
  | nil => cases h
  | cons c l ih =>
    rw [List.flatMap_cons] at h
    by_cases hc : c = '\n'
    · have hfeed : String.utf8EncodeChar '\n' = [lineFeed] := by decide
      rw [hc, hfeed, List.singleton_append, segments_feed, List.mem_cons] at h
      rcases h with rfl | h
      · exact ⟨['\n'], by rw [List.flatMap_singleton, hfeed]⟩
      · exact ih h
    · have hnone : lineFeed ∉ String.utf8EncodeChar c := mt lineFeed_mem_utf8EncodeChar hc
      rw [segments_append hnone String.utf8EncodeChar_ne_nil, List.mem_cons] at h
      rcases h with rfl | h
      · cases hsegments : segments (l.flatMap String.utf8EncodeChar) with
        | nil => exact ⟨[c], by simp⟩
        | cons s ss =>
          rw [hsegments] at ih
          obtain ⟨l', hl'⟩ := ih List.mem_cons_self
          exact ⟨c :: l', by rw [List.flatMap_cons, ← hl']; rfl⟩
      · exact ih (List.mem_of_mem_tail h)

/-- No line feed stands within a character, so bytes are text if all their segments are. -/
lemma all_isText_segments (bytes : List UInt8) :
    (segments bytes).all isText = isText bytes := by
  rw [Bool.eq_iff_iff, List.all_eq_true]
  constructor
  · intro h
    rw [← flatten_segments bytes]
    exact isText_flatten h
  · intro h s hs
    obtain ⟨text, rfl⟩ := isText_iff.mp h
    rw [← String.ofList_toList (s := text), utf8Bytes_ofList] at hs
    obtain ⟨l, rfl⟩ := segments_encoded text.toList hs
    rw [← utf8Bytes_ofList]
    exact isText_iff.mpr ⟨_, rfl⟩

end Encoding

section Reading

variable {r rest : Reader} {b : List UInt8}

/-- The segments that a reader can give: a fault breaks off the last one, if that has no line feed. -/
def readable (r : Reader) : List (List UInt8) :=
  match r.fault with
  | none => segments r.content
  | some _ => (segments r.content).take (r.content.count lineFeed)

/-- What is read off some segments with a fault behind them. -/
def readSegments (fault : Option Fault) : List (List UInt8) → List (Except Fault String)
  | [] => fault.toList.map .error
  | s :: ss =>
    match decodeLine s with
    | .ok text => .ok text :: readSegments fault ss
    | .error e => [.error e]

lemma readable_line {line : List UInt8} (hline : lineFeed ∉ line)
    (hcontent : r.content = line ++ lineFeed :: rest.content) (hfault : rest.fault = r.fault) :
    readable r = (line ++ [lineFeed]) :: readable rest := by
  unfold readable
  rw [hfault, hcontent, segments_line hline, List.count_append, List.count_eq_zero_of_not_mem hline,
    List.count_cons_self, Nat.zero_add]
  cases r.fault <;> rfl

lemma outcomes_finished : finished.outcomes = [] :=
  outcomes_of_next_none rfl

lemma outcomes_of_deliver (h : r.next = deliver b rest) :
    r.outcomes =
      match decodeLine b with
      | .ok text => .ok text :: rest.outcomes
      | .error e => [.error e] := by
  unfold deliver at h
  cases hdecode : decodeLine b with
  | ok text =>
    rw [hdecode] at h
    exact outcomes_of_next_some h
  | error e =>
    rw [hdecode] at h
    rw [outcomes_of_next_some h, outcomes_finished]

lemma outcomes_eq_readSegments (r : Reader) : r.outcomes = readSegments r.fault (readable r) := by
  induction hlength : r.content.length using Nat.strong_induction_on generalizing r with
  | _ n ih =>
    subst hlength
    cases goesOn r with
    | line line rest hline hcontent hfault hnext =>
      have hlt : rest.content.length < r.content.length := by
        rw [hcontent, List.length_append, List.length_cons]
        omega
      rw [outcomes_of_deliver hnext, readable_line hline hcontent hfault, readSegments,
        ih _ hlt rest rfl, hfault]
    | breaksOff fault hnone hfault hnext =>
      rw [outcomes_of_next_some hnext, outcomes_finished, readable, hfault,
        List.count_eq_zero_of_not_mem hnone]
      rfl
    | last hnone hne hfault hnext =>
      rw [outcomes_of_deliver hnext, outcomes_finished, readable, hfault, segments_last hnone hne]
      rfl
    | ends hnil hfault hnext =>
      rw [outcomes_of_next_none hnext, readable, hfault, hnil]
      rfl

lemma exists_line (hne : b ≠ []) (hone : OneLine b) (htext : isText b = true) :
    ∃ l : TextLine, l.bytes = b ∧ decodeLine b = .ok l.text := by
  obtain ⟨s, hs⟩ := Option.isSome_iff_exists.mp htext
  have hdecode : decodeLine b = .ok (String.ofList (stripTerminator s.toList)) := by
    rw [decodeLine, hs]
  have hfeed := lineFeed_not_mem_of_decodeLine hone hdecode
  have hend : lineFeed ∉ b → b ≠ [] ∧ ([] : List UInt8) = [] := fun _ => ⟨hne, rfl⟩
  obtain ⟨terminator, hbytes, hterminates⟩ := terminates_of_decodeLine hdecode hfeed hend
  have hterminator : terminator = "\r\n" ∨ (terminator = "\n" ∧
      (String.ofList (stripTerminator s.toList)).toList.getLast? ≠ some '\r') ∨ terminator = "" := by
    cases hterminates with
    | feed _ hlast => exact .inr (.inl ⟨rfl, hlast⟩)
    | returnFeed => exact .inl rfl
    | atEnd => exact .inr (.inr rfl)
  exact ⟨⟨_, terminator, hfeed, hterminator⟩, hbytes.symm, hdecode⟩

lemma decodeLine_of_not_isText (h : isText b = false) : decodeLine b = .error .invalidEncoding := by
  rw [isText, Option.isSome_eq_false_iff, Option.isNone_iff_eq_none] at h
  rw [decodeLine, h]

/-- What ends the lines, if these are the segments: the fault behind them, or the first one of them
that is no text. -/
def endingFault (fault : Option Fault) (segs : List (List UInt8)) : Option Fault :=
  if segs.all isText then fault else some .invalidEncoding

lemma readSegments_eq (fault : Option Fault) {segs : List (List UInt8)}
    (hsegs : ∀ s ∈ segs, s ≠ [] ∧ OneLine s) :
    ∃ lines : List TextLine, lines.map TextLine.bytes = segs.takeWhile isText ∧
      readSegments fault segs =
        lines.map (fun l => .ok l.text) ++ (endingFault fault segs).toList.map .error := by
  induction segs with
  | nil => exact ⟨[], rfl, rfl⟩
  | cons s segs ih =>
    obtain ⟨⟨hne, hone⟩, hrest⟩ := List.forall_mem_cons.mp hsegs
    cases htext : isText s with
    | true =>
      obtain ⟨l, rfl, hdecode⟩ := exists_line hne hone htext
      obtain ⟨lines, hlines, hread⟩ := ih hrest
      refine ⟨l :: lines, ?_, ?_⟩
      · rw [List.map_cons, hlines, List.takeWhile_cons_of_pos htext]
      · rw [readSegments, hdecode, hread, endingFault, endingFault, List.all_cons, htext,
          Bool.true_and]
        rfl
    | false =>
      refine ⟨[], ?_, ?_⟩
      · rw [List.takeWhile_cons_of_neg (Bool.eq_false_iff.mp htext)]
        rfl
      · rw [readSegments, decodeLine_of_not_isText htext, endingFault, List.all_cons, htext,
          Bool.false_and]
        rfl

lemma readable_oneLine (r : Reader) : ∀ s ∈ readable r, s ≠ [] ∧ OneLine s := by
  intro s hs
  unfold readable at hs
  split at hs
  · exact segment_oneLine hs
  · exact segment_oneLine (List.mem_of_mem_take hs)

end Reading

section Handles

variable {f : FileHandle} {lines : List TextLine} {l : TextLine} {fault : Option Fault}
  {pending : List (Except Fault String)}

lemma after_handle_succ (f : FileHandle) (k : Nat) :
    Feed.after f (k + 1) = Feed.after f.nextLine.2 k :=
  rfl

lemma finished_handle (h : f.pending = []) (k : Nat) :
    (Feed.after f k).nextLine.1 = none ∧ (Feed.after f k).currentLine = f.currentLine := by
  induction k generalizing f with
  | zero =>
    refine ⟨?_, rfl⟩
    rw [Feed.after, FileHandle.nextLine, h]
  | succ k ih =>
    have hrest : f.nextLine.2.pending = [] := by rw [FileHandle.pending_nextLine, h]; rfl
    have hline : f.nextLine.2.currentLine = f.currentLine := by rw [FileHandle.nextLine, h]
    rw [after_handle_succ, ← hline]
    exact ih hrest

lemma givesLines_nil (h : f.pending = fault.toList.map .error) : GivesLines f [] fault := by
  have hrest : f.nextLine.2.pending = [] := by
    rw [FileHandle.pending_nextLine, h]
    cases fault <;> rfl
  have hline : f.nextLine.2.currentLine = f.currentLine := by
    rw [FileHandle.nextLine, h]
    cases fault <;> rfl
  refine ⟨?_, ?_, ?_, ?_⟩
  · intro k l hl
    cases hl
  · intro k
    rw [List.length_nil, Nat.min_zero, Nat.add_zero]
    cases k with
    | zero => rfl
    | succ k => rw [after_handle_succ, (finished_handle hrest k).2, hline]
  · rw [List.length_nil, Feed.after, FileHandle.nextLine, h]
    cases fault <;> rfl
  · intro k hk
    cases k with
    | zero => cases hk
    | succ k => rw [after_handle_succ, (finished_handle hrest k).1]

lemma GivesLines.cons (h : f.pending = .ok l.text :: pending)
    (hrest : GivesLines f.nextLine.2 lines fault) : GivesLines f (l :: lines) fault := by
  have hnext : f.nextLine = (some (.ok (l.text, f.currentLine + 1)),
      { f with currentLine := f.currentLine + 1, pending }) := by
    rw [FileHandle.nextLine, h]
  have hline : f.nextLine.2.currentLine = f.currentLine + 1 := by rw [hnext]
  have hpath : f.nextLine.2.path = f.path := by rw [hnext]
  refine ⟨?_, ?_, ?_, ?_⟩
  · intro k l' hl'
    cases k with
    | zero =>
      cases hl'
      rw [Feed.after, hnext]
    | succ k =>
      rw [after_handle_succ, hrest.line k l' hl', hline, Nat.add_right_comm _ 1 k, Nat.add_assoc _ k 1]
  · intro k
    cases k with
    | zero => rw [Nat.zero_min]; rfl
    | succ k =>
      rw [after_handle_succ, hrest.currentLine k, hline, List.length_cons]
      omega
  · rw [List.length_cons, after_handle_succ, hrest.ending, hline, hpath, Nat.add_right_comm]
    rfl
  · intro k hk
    cases k with
    | zero => cases hk
    | succ k => exact hrest.behind k (Nat.lt_of_succ_lt_succ hk)

lemma givesLines_of_pending (h : f.pending =
    lines.map (fun l => .ok l.text) ++ fault.toList.map .error) : GivesLines f lines fault := by
  induction lines generalizing f with
  | nil => exact givesLines_nil h
  | cons l lines ih =>
    refine GivesLines.cons h (ih ?_)
    rw [FileHandle.pending_nextLine, h]
    rfl

lemma openFile_of_reader {files : FileSystem} {path : String} {r : Reader} (site : Option Site)
    (h : files.openFile path = .ok r) :
    FileHandle.openFile files path site = .ok { path, pending := r.outcomes } := by
  rw [FileHandle.openFile, FileSystem.outcomes, h]
  rfl

lemma exists_givesLines (path : String) (r : Reader) :
    ∃ lines : List TextLine, lines.map TextLine.bytes = (readable r).takeWhile isText ∧
      GivesLines { path, pending := r.outcomes } lines (endingFault r.fault (readable r)) := by
  obtain ⟨lines, hlines, hread⟩ := readSegments_eq r.fault (readable_oneLine r)
  exact ⟨lines, hlines, givesLines_of_pending ((outcomes_eq_readSegments r).trans hread)⟩

lemma GivesLines.exists_error_iff (h : GivesLines f lines fault) :
    (∃ k e, (Feed.after f k).nextLine.1 = some (.error e)) ↔ fault.isSome := by
  constructor
  · rintro ⟨k, e, hk⟩
    rcases lt_trichotomy k lines.length with hlt | rfl | hlt
    · rw [h.line k lines[k] (List.getElem?_eq_getElem hlt)] at hk
      cases hk
    · cases fault with
      | some fault => rfl
      | none =>
        rw [h.ending] at hk
        cases hk
    · rw [h.behind k hlt] at hk
      cases hk
  · intro hfault
    obtain ⟨e, rfl⟩ := Option.isSome_iff_exists.mp hfault
    exact ⟨_, _, h.ending⟩

/-- A file in memory gives its segments up to the first one that is no text. Nothing is lost but what
ended the lines, and there is an error only if the content as a whole is no text. -/
theorem memory_file_gives_its_lines (m : MemoryStore) (path : String) (site : Option Site)
    (content : List UInt8) (h : m.content? path = some content) :
    ∃ f lines, FileHandle.openFile m.fileSystem path site = .ok f ∧ f.path = path ∧
      f.currentLine = 0 ∧ lines.map TextLine.bytes = (segments content).takeWhile isText ∧
      GivesLines f lines (if isText content then none else some .invalidEncoding) ∧
      (isText content = true → (lines.map TextLine.bytes).flatten = content) ∧
      ((∃ k e, (Feed.after f k).nextLine.1 = some (.error e)) ↔ isText content = false) := by
  have hopen : m.fileSystem.openFile path = .ok (ofBytes content) := by
    simp only [MemoryStore.fileSystem, MemoryStore.openReader, h]
    rfl
  have hcontent : (ofBytes content).content = content := List.append_nil content
  have hreadable : readable (ofBytes content) = segments content := by
    rw [readable, hcontent]
    rfl
  obtain ⟨lines, hlines, hgives⟩ := exists_givesLines path (ofBytes content)
  rw [hreadable] at hlines hgives
  rw [endingFault, all_isText_segments] at hgives
  refine ⟨_, lines, openFile_of_reader site hopen, rfl, rfl, hlines, hgives, ?_, ?_⟩
  · intro htext
    have hall : (segments content).takeWhile isText = segments content := by
      rw [List.takeWhile_eq_self_iff, ← List.all_eq_true, all_isText_segments, htext]
    rw [hlines, hall, flatten_segments]
  · rw [hgives.exists_error_iff]
    cases isText content <;> simp [ofBytes]

/-- Lines that end in every way there is, with one at the end that is no text. -/
def garbledContent : List UInt8 :=
  [97, 13, 10, 10, 13, 98, 10, 255]

theorem memory_file_gives_its_lines_garbled :
    (MemoryStore.ofFiles [("d/a", garbledContent)]).content? "d\\a" = some garbledContent ∧
      ∃ f lines,
        FileHandle.openFile (MemoryStore.ofFiles [("d/a", garbledContent)]).fileSystem "d\\a" none =
          .ok f ∧
        lines.map TextLine.bytes = [[97, 13, 10], [10], [13, 98, 10]] ∧
        GivesLines f lines (some .invalidEncoding) ∧
        (Feed.after f 3).nextLine.1 = some (.error (.cannotRead "d\\a" 3 .invalidEncoding)) := by
  have hcontent : (MemoryStore.ofFiles [("d/a", garbledContent)]).content? "d\\a" =
      some garbledContent := by
    decide +kernel
  have hsegments : (segments garbledContent).takeWhile isText =
      [[97, 13, 10], [10], [13, 98, 10]] := by
    decide +kernel
  have htext : isText garbledContent = false := by decide +kernel
  obtain ⟨f, lines, hf, hpath, hstart, hlines, hgives, -, -⟩ :=
    memory_file_gives_its_lines _ _ none _ hcontent
  rw [hsegments] at hlines
  rw [htext] at hgives
  have hlength : lines.length = 3 := by
    rw [← List.length_map TextLine.bytes, hlines]
    rfl
  have hending := hgives.ending
  rw [hlength, hpath, hstart] at hending
  exact ⟨hcontent, f, lines, hf, hlines, hgives, hending⟩

/-- How the bytes of a file come, in which pieces and with which interruptions, makes no difference to
its lines. A fault after so many bytes leaves the lines that end within these, unless one of them is no
text and ends the file before. -/
theorem lines_despite_delivery (files : FileSystem) (path : String) (site : Option Site) (r : Reader)
    (hopen : files.openFile path = .ok r) :
    ∃ f, FileHandle.openFile files path site = .ok f ∧ f.path = path ∧ f.currentLine = 0 ∧
      (∀ files' : FileSystem,
        files'.openFile path = .ok { deliveries := [.bytes r.content], fault := r.fault } →
        ∃ f', FileHandle.openFile files' path site = .ok f' ∧
          ∀ k, (Feed.after f k).nextLine.1 = (Feed.after f' k).nextLine.1) ∧
      ∀ content n fault, r.content = content.take n → r.fault = some fault →
        ∃ lines, lines.map TextLine.bytes = (segmentsWithin n content).takeWhile isText ∧
          GivesLines f lines
            (some (if (segmentsWithin n content).all isText then fault else .invalidEncoding)) := by
  refine ⟨_, openFile_of_reader site hopen, rfl, rfl, ?_, ?_⟩
  · intro files' hopen'
    have hsame : SameContent r { deliveries := [.bytes r.content], fault := r.fault } :=
      ⟨(List.append_nil _).symm, rfl⟩
    refine ⟨_, openFile_of_reader site hopen', fun k => ?_⟩
    rw [hsame.outcomes_eq]
  · intro content n fault hcontent hfault
    have hreadable : readable r = segmentsWithin n content := by
      have happend := take_segments_append (content.take n) (content.drop n)
      rw [List.take_append_drop] at happend
      rw [readable, hfault, hcontent, segmentsWithin, happend]
    obtain ⟨lines, hlines, hgives⟩ := exists_givesLines path r
    rw [hreadable] at hlines hgives
    rw [endingFault, hfault, ← apply_ite some] at hgives
    exact ⟨lines, hlines, hgives⟩

/-- A reader that is interrupted within the end of a line and breaks off within a character. -/
def brokenOffReader : Reader where
  deliveries := [.bytes [97, 13], .interrupted, .bytes [10, 195]]
  fault := some (.system .isADirectory)

def brokenOffFile : FileSystem where
  isFile _ := true
  openFile _ := .ok brokenOffReader

theorem lines_despite_delivery_brokenOff :
    brokenOffFile.openFile "a" = .ok brokenOffReader ∧
      brokenOffReader.content = [97, 13, 10, 195, 169, 10].take 4 ∧
      ∃ f lines, FileHandle.openFile brokenOffFile "a" none = .ok f ∧
        lines.map TextLine.bytes = [[97, 13, 10]] ∧
        GivesLines f lines (some (.system .isADirectory)) := by
  have hopen : brokenOffFile.openFile "a" = .ok brokenOffReader := rfl
  have hcontent : brokenOffReader.content = [97, 13, 10, 195, 169, 10].take 4 := by decide
  have hwithin : segmentsWithin 4 [97, 13, 10, 195, 169, 10] = [[97, 13, 10]] := by decide
  have htext : isText [97, 13, 10] = true := by decide +kernel
  obtain ⟨f, hf, -, -, -, hfault⟩ := lines_despite_delivery brokenOffFile "a" none _ hopen
  obtain ⟨lines, hlines, hgives⟩ := hfault _ _ _ hcontent rfl
  rw [hwithin] at hlines hgives
  rw [List.takeWhile_cons_of_pos htext] at hlines
  rw [List.all_cons, htext] at hgives
  exact ⟨hopen, hcontent, f, lines, hf, hlines, hgives⟩

end Handles

end SourceSplice.Proofs
