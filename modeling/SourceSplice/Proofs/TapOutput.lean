import Mathlib.Tactic
import SourceSplice.Pipeline
import SourceSplice.Preprocess
import SourceSplice.Proofs.RecordReading
/-!
# What the taps of a pipeline write

A tap writes the texts of the items that passed it, each of them as a line, as far as its writer has
room for them, and it is flushed once at its end if there was room for all. So what the tap of a
pipeline wrote is known from the items of the scan, and over a writer that takes everything it can
be compared with the text that preprocessing folds.
-/

namespace SourceSplice.Proofs

section Bytes

lemma toList_loop (bs : ByteArray) (i : Nat) (r : List UInt8) :
    ByteArray.toList.loop bs i r = r.reverse ++ bs.data.toList.drop i := by
  fun_induction ByteArray.toList.loop bs i r with
  | case1 i r h ih =>
    have hlt : i < bs.data.toList.length := h
    have hget : bs.get! i = bs.data.toList[i] := by
      simp only [ByteArray.get!, Array.getElem_toList, getElem!_pos bs.data i h]
    rw [ih, hget, List.drop_eq_getElem_cons hlt, List.reverse_cons, List.append_assoc]
    rfl
  | case2 i r h =>
    have hle : bs.data.toList.length ≤ i := Nat.le_of_not_lt h
    rw [List.drop_eq_nil_of_le hle, List.append_nil]

lemma utf8Bytes_eq (s : String) : utf8Bytes s = s.toByteArray.data.toList :=
  toList_loop s.toByteArray 0 []

lemma utf8Bytes_append (s t : String) : utf8Bytes (s ++ t) = utf8Bytes s ++ utf8Bytes t := by
  rw [utf8Bytes_eq, utf8Bytes_eq, utf8Bytes_eq, String.toByteArray_append, ByteArray.data_append,
    Array.toList_append]

lemma utf8Bytes_lineFeed : utf8Bytes "\n" = [10] := by
  rw [utf8Bytes_eq]
  rfl

end Bytes

section Lines

/-- Texts with a line feed behind each of them. -/
def asLines : List String → String
  | [] => ""
  | text :: texts => text ++ "\n" ++ asLines texts

end Lines

section Sink

/-- The bytes of a text that a sink takes: all of them, or those for which it has room. -/
def acceptedBytes (w : Sink) (bytes : List UInt8) : List UInt8 :=
  match w.room with
  | none => bytes
  | some room => bytes.take room

/-- Whether a sink has room for all the bytes. -/
def Fits (w : Sink) (bytes : List UInt8) : Prop :=
  ∀ room, w.room = some room → bytes.length ≤ room

lemma write_of_fits {w : Sink} {bytes : List UInt8} (h : Fits w bytes) :
    (w.write bytes).1 = none := by
  cases hroom : w.room with
  | none => simp only [Sink.write, hroom]
  | some room => simp only [Sink.write, hroom, if_pos (h room hroom)]

lemma write_of_not_fits {w : Sink} {bytes : List UInt8} (h : ¬Fits w bytes) :
    (w.write bytes).1 = some Sink.fault := by
  cases hroom : w.room with
  | none => exact absurd (fun room hr => by cases hroom.symm.trans hr) h
  | some room =>
    have hlong : ¬bytes.length ≤ room :=
      fun hle => h fun room' hr => Option.some.inj (hroom.symm.trans hr) ▸ hle
    simp only [Sink.write, hroom, if_neg hlong]

lemma content_write (w : Sink) (bytes : List UInt8) :
    (w.write bytes).2.content = w.content ++ acceptedBytes w bytes := by
  cases hroom : w.room with
  | none => simp [Sink.write, hroom, Sink.content, acceptedBytes]
  | some room =>
    by_cases hle : bytes.length ≤ room
    · simp [Sink.write, hroom, hle, Sink.content, acceptedBytes, List.take_of_length_le hle]
    · simp [Sink.write, hroom, hle, Sink.content, acceptedBytes]

lemma flushes_write (w : Sink) (bytes : List UInt8) : (w.write bytes).2.flushes = w.flushes := by
  cases hroom : w.room with
  | none => simp only [Sink.write, hroom]
  | some room =>
    simp only [Sink.write, hroom]
    split <;> rfl

lemma write_nil (w : Sink) : w.write [] = (none, w) := by
  obtain ⟨room, flushFails, taken, flushes⟩ := w
  cases room <;> rfl

lemma write_append (w : Sink) (bytes more : List UInt8) :
    w.write (bytes ++ more) = match w.write bytes with
      | (some fault, w) => (some fault, w)
      | (none, w) => w.write more := by
  cases hroom : w.room with
  | none => simp [Sink.write, hroom, List.reverseAux_eq]
  | some room =>
    by_cases hle : bytes.length ≤ room
    · have hfits : (bytes ++ more).length ≤ room ↔ more.length ≤ room - bytes.length := by
        rw [List.length_append]
        omega
      by_cases hmore : more.length ≤ room - bytes.length
      · have hrest : room - (bytes ++ more).length = room - bytes.length - more.length := by
          rw [List.length_append]
          omega
        simp only [Sink.write, hroom, if_pos hle, if_pos hmore, if_pos (hfits.mpr hmore), hrest,
          List.reverseAux_eq, List.reverse_append, List.append_assoc]
      · have htake : (bytes ++ more).take room = bytes ++ more.take (room - bytes.length) := by
          rw [List.take_append, List.take_of_length_le hle]
        simp only [Sink.write, hroom, if_pos hle, if_neg hmore, if_neg (mt hfits.mp hmore), htake,
          List.reverseAux_eq, List.reverse_append, List.append_assoc]
    · have hlong : ¬(bytes ++ more).length ≤ room := by
        rw [List.length_append]
        omega
      have htake : (bytes ++ more).take room = bytes.take room :=
        List.take_append_of_le_length (le_of_not_ge hle)
      simp only [Sink.write, hroom, if_neg hle, if_neg hlong, htake]

end Sink

section Tap

variable {α ω : Type}

lemma passAll_items [Writer ω] (t : Tap α ω) (xs : List α) : (t.passAll xs).1 = xs := by
  induction xs generalizing t with
  | nil => rfl
  | cons x xs ih => exact congrArg _ (ih _)

/-- A tap at its end, after these items. -/
def tapAfter [Writer ω] (items : List α) (t : Tap α ω) : Tap α ω :=
  (t.passAll items).2.finish

lemma passAll_of_failure [Writer ω] {t : Tap α ω} {fault : Fault} (h : t.failure = some fault)
    (xs : List α) : (t.passAll xs).2 = t := by
  induction xs with
  | nil => rfl
  | cons x xs ih =>
    have hpass : t.pass x = t := by simp only [Tap.pass, h]
    rw [Tap.passAll, hpass]
    exact ih

lemma writeLine_eq (w : Sink) (text : String) :
    Writer.writeLine w text = w.write (utf8Bytes (text ++ "\n")) := by
  rw [utf8Bytes_append, utf8Bytes_lineFeed, write_append, Writer.writeLine]
  simp only [Writer.write]
  rcases w.write (utf8Bytes text) with ⟨_ | fault, w'⟩ <;> rfl

/-- The bytes that items write: the text of each one with a line feed behind it. -/
def tapText (project : α → Option String) (xs : List α) : List UInt8 :=
  utf8Bytes (asLines (xs.filterMap project))

lemma tapText_cons_some {project : α → Option String} {x : α} {text : String}
    (h : project x = some text) (xs : List α) :
    tapText project (x :: xs) = utf8Bytes (text ++ "\n") ++ tapText project xs := by
  rw [tapText, List.filterMap_cons_some h, asLines, utf8Bytes_append]
  rfl

lemma passAll_eq_write {t : Tap α Sink} (hfailure : t.failure = none) (xs : List α) :
    (t.passAll xs).2 =
      { t with
        writer := (t.writer.write (tapText t.project xs)).2
        failure := (t.writer.write (tapText t.project xs)).1 } := by
  obtain ⟨project, writer, failure, flushFailure⟩ := t
  obtain rfl : failure = none := hfailure
  induction xs generalizing writer with
  | nil =>
    have hempty : tapText project [] = [] := by
      rw [tapText, List.filterMap_nil, asLines, utf8Bytes_eq]
      rfl
    simp only [hempty, write_nil]
    rfl
  | cons x xs ih =>
    cases hx : project x with
    | none =>
      have hpass : Tap.pass (⟨project, writer, none, flushFailure⟩ : Tap α Sink) x =
          ⟨project, writer, none, flushFailure⟩ := by
        simp only [Tap.pass, hx]
      have hsame : tapText project (x :: xs) = tapText project xs := by
        rw [tapText, List.filterMap_cons_none hx, tapText]
      rw [Tap.passAll, hpass, hsame]
      exact ih writer
    | some text =>
      have hpass : Tap.pass (⟨project, writer, none, flushFailure⟩ : Tap α Sink) x =
          ⟨project, (writer.write (utf8Bytes (text ++ "\n"))).2,
            (writer.write (utf8Bytes (text ++ "\n"))).1, flushFailure⟩ := by
        simp only [Tap.pass, hx, writeLine_eq]
      rw [Tap.passAll, hpass, tapText_cons_some hx, write_append]
      -- behind a fault the tap stays as it is, and before one it writes the rest
      rcases writer.write (utf8Bytes (text ++ "\n")) with ⟨_ | fault, writer'⟩
      · exact ih writer'
      · exact passAll_of_failure rfl xs

/-- A tap at its end that has written to its writer what there was room for of these bytes, and has
flushed it if that was all of them. -/
structure Filled (w : Sink) (bytes : List UInt8) (t : Tap α Sink) : Prop where
  content : t.writer.content = w.content ++ acceptedBytes w bytes
  flushed : Fits w bytes → t.writer.flushes = w.flushes + 1
  unflushed : ¬Fits w bytes → t.writer.flushes = w.flushes

/-- The fault of a write that does not fit is the one thing that keeps a tap from flushing. -/
lemma filled_tapAfter {t : Tap α Sink} (hfailure : t.failure = none) (xs : List α) :
    Filled t.writer (tapText t.project xs) (tapAfter xs t) := by
  have hcontent := content_write t.writer (tapText t.project xs)
  have hflushes := flushes_write t.writer (tapText t.project xs)
  by_cases hfits : Fits t.writer (tapText t.project xs)
  · rw [tapAfter, passAll_eq_write hfailure, write_of_fits hfits, Tap.finish]
    exact ⟨hcontent, fun _ => congrArg (· + 1) hflushes, fun hnot => absurd hfits hnot⟩
  · rw [tapAfter, passAll_eq_write hfailure, write_of_not_fits hfits, Tap.finish]
    exact ⟨hcontent, fun h => absurd h hfits, fun _ => hflushes⟩

/-- A tap that has written these texts, each as a line, to a writer, and was flushed at its end. -/
structure Wrote (w : Sink) (texts : List String) (t : Tap α Sink) : Prop where
  content : t.writer.content = w.content ++ utf8Bytes (asLines texts)
  flushes : t.writer.flushes = w.flushes + 1
  failure : t.failure = none

lemma wrote_finish {t : Tap α Sink} (hfailure : t.failure = none) (hroom : t.writer.room = none)
    (xs : List α) : Wrote t.writer (xs.filterMap t.project) (t.passAll xs).2.finish := by
  have hfits : Fits t.writer (tapText t.project xs) := fun room hr => by cases hroom.symm.trans hr
  have haccepted : acceptedBytes t.writer (tapText t.project xs) = tapText t.project xs := by
    rw [acceptedBytes, hroom]
  have hfilled := filled_tapAfter hfailure xs
  refine ⟨hfilled.content.trans (congrArg _ haccepted), hfilled.flushed hfits, ?_⟩
  rw [passAll_eq_write hfailure, write_of_fits hfits, Tap.finish]

end Tap

section Record

lemma lineFeed_not_mem_json (e : Event) : '\n' ∉ e.json.toList :=
  (noControls_render e.record).lineFeed_not_mem

end Record

section Fold

lemma addAll_events (p : Preprocessed) (items : List ScanItem) :
    (p.addAll items).map Preprocessed.events = (Feed.tryCount items).map (p.events + ·) := by
  induction items generalizing p with
  | nil => rfl
  | cons x items ih =>
    cases x with
    | error e => rfl
    | ok e =>
      have hadd : (p.add e).events = p.events + 1 := by cases e <;> rfl
      rw [Preprocessed.addAll, ih, hadd, Feed.tryCount]
      cases Feed.tryCount items with
      | error e => rfl
      | ok n => exact congrArg Except.ok (Nat.add_right_comm p.events 1 n)

lemma addAll_empty (items : List ScanItem) :
    (Preprocessed.addAll {} items).map Preprocessed.events = Feed.tryCount items := by
  rw [addAll_events]
  cases Feed.tryCount items with
  | error e => rfl
  | ok n => exact congrArg Except.ok (Nat.zero_add n)

lemma addAll_source {p out : Preprocessed} (events : List Event)
    (h : p.addAll (events.map .ok) = .ok out) :
    out.source = p.source ++ asLines (events.filterMap Event.sourceLine?) := by
  induction events generalizing p with
  | nil =>
    cases h
    exact String.append_empty.symm
  | cons e events ih =>
    rw [ih h]
    cases e with
    | line text number =>
      simp only [Preprocessed.add, List.filterMap_cons, Event.sourceLine?, asLines,
        String.append_assoc]
    | fileChange path =>
      simp only [Preprocessed.add, List.filterMap_cons, Event.sourceLine?]

lemma addAll_lines {p out : Preprocessed} (events : List Event)
    (h : p.addAll (events.map .ok) = .ok out) :
    out.lines = p.lines + (events.filterMap Event.sourceLine?).length := by
  induction events generalizing p with
  | nil =>
    cases h
    rfl
  | cons e events ih =>
    rw [ih h]
    cases e with
    | line text number =>
      simp only [Preprocessed.add, List.filterMap_cons, Event.sourceLine?, List.length_cons]
      omega
    | fileChange path =>
      simp only [Preprocessed.add, List.filterMap_cons, Event.sourceLine?]

lemma eraseDups_concat (xs : List String) (x : String) :
    (xs ++ [x]).eraseDups = if x ∈ xs then xs.eraseDups else xs.eraseDups ++ [x] := by
  rw [List.eraseDups_append]
  split
  · rename_i hmem
    have hremoved : [x].removeAll xs = [] := by simp [List.removeAll, hmem]
    rw [hremoved, List.eraseDups_nil, List.append_nil]
  · rename_i hmem
    have hkept : [x].removeAll xs = [x] := by simp [List.removeAll, hmem]
    rw [hkept]
    rfl

lemma addAll_files {p out : Preprocessed} {paths : List String} (events : List Event)
    (hp : p.files = paths.eraseDups) (h : p.addAll (events.map .ok) = .ok out) :
    out.files = (paths ++ events.filterMap Event.changedFile?).eraseDups := by
  induction events generalizing p paths with
  | nil =>
    cases h
    rw [List.filterMap_nil, List.append_nil, hp]
  | cons e events ih =>
    cases e with
    | line text number => exact ih (p := p.add (.line text number)) hp h
    | fileChange path =>
      have hadd : (p.add (.fileChange path)).files = (paths ++ [path]).eraseDups := by
        simp only [Preprocessed.add, eraseDups_concat, hp, List.contains_iff_mem, List.mem_eraseDups]
      rw [ih hadd h, List.append_assoc]
      rfl

lemma addAll_concat_error (p : Preprocessed) (events : List Event) (e : ScanError) :
    p.addAll (events.map .ok ++ [.error e]) = .error e := by
  induction events generalizing p with
  | nil => rfl
  | cons e' events ih => exact ih _

lemma tryCount_map_ok (events : List Event) :
    Feed.tryCount (events.map .ok : List ScanItem) = .ok events.length := by
  induction events with
  | nil => rfl
  | cons e events ih => rw [List.map_cons, Feed.tryCount, ih]; rfl

lemma tryCount_concat_error (events : List Event) (e : ScanError) :
    Feed.tryCount (events.map .ok ++ [.error e] : List ScanItem) = .error e := by
  induction events with
  | nil => rfl
  | cons e' events ih => rw [List.map_cons, List.cons_append, Feed.tryCount, ih]; rfl

end Fold

end SourceSplice.Proofs
