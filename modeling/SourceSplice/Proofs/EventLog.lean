import SourceSplice.Proofs.LineReading
import SourceSplice.Proofs.RecordReading
/-!
# An event log can be read back

The event tap writes one record for each event, with a line feed behind it. No record has a line feed
in it, so the bytes of a log fall apart at its line feeds into just these records, and each of them
is read back as the event that it was written for.
-/

namespace SourceSplice.Proofs

/-- The bytes that the event tap writes for events, to a writer that takes everything. -/
def eventLog (events : List Event) : List UInt8 :=
  (Tap.passAll { project := eventProjection, writer := ({} : Sink) }
    (events.map .ok)).2.finish.writer.content

/-- The event whose record these bytes are. -/
def eventOfLine? (line : List UInt8) : Option Event := do
  let text ← String.fromUTF8? ⟨line.toArray⟩
  Event.ofRecord? (← Record.read? text)

lemma eventLog_eq (events : List Event) :
    eventLog events = utf8Bytes (asLines (events.map Event.json)) := by
  have hwrote := wrote_finish (t := { project := eventProjection, writer := ({} : Sink) }) rfl rfl
    (events.map .ok)
  have hlines : (events.map (.ok : Event → ScanItem)).filterMap eventProjection =
      events.map Event.json := by
    rw [List.filterMap_map]
    exact congrFun List.filterMap_eq_map events
  rw [eventLog, hwrote.content, hlines]
  exact List.nil_append _

lemma splitOn_asLines {texts : List String} (h : ∀ text ∈ texts, '\n' ∉ text.toList) :
    (utf8Bytes (asLines texts)).splitOn lineFeed = texts.map utf8Bytes ++ [[]] := by
  induction texts with
  | nil =>
    rw [asLines, utf8Bytes_eq]
    rfl
  | cons text texts ih =>
    obtain ⟨htext, htexts⟩ := List.forall_mem_cons.mp h
    have hbytes : utf8Bytes (asLines (text :: texts)) =
        utf8Bytes text ++ lineFeed :: utf8Bytes (asLines texts) := by
      rw [asLines, utf8Bytes_append, utf8Bytes_append, utf8Bytes_lineFeed, List.append_assoc]
      rfl
    rw [hbytes, List.splitOn_append_cons_self_of_not_mem (lineFeed_not_mem_utf8Bytes htext),
      ih htexts]
    rfl

lemma eventOfLine?_json (e : Event) : eventOfLine? (utf8Bytes e.json) = some e := by
  have htext : String.fromUTF8? ⟨(utf8Bytes e.json).toArray⟩ = some e.json :=
    fromUTF8?_eq_some_iff.mpr rfl
  have hrecord : Record.read? e.json = some e.record := read?_render e.record
  simp only [eventOfLine?, htext, hrecord, Option.bind_eq_bind, Option.bind_some,
    Event.ofRecord?_record]

/-- Cut at its line feeds, the log of some events is one line for each of them, in order, and nothing
behind the last line feed; every line is the record of its event and of no other one. So no other
events have the same log. -/
theorem event_log_decodes (events : List Event) :
    ∃ lines : List (List UInt8),
      (eventLog events).splitOn lineFeed = lines ++ [[]] ∧
      lines.map eventOfLine? = events.map some ∧
      ∀ others, eventLog others = eventLog events → others = events := by
  have hsplit : ∀ events : List Event, (eventLog events).splitOn lineFeed =
      events.map (fun e => utf8Bytes e.json) ++ [[]] := by
    intro events
    have hlines : ∀ text ∈ events.map Event.json, '\n' ∉ text.toList :=
      List.forall_mem_map.mpr fun e _ => lineFeed_not_mem_json e
    rw [eventLog_eq, splitOn_asLines hlines, List.map_map]
    rfl
  have hread : ∀ events : List Event,
      (events.map fun e => utf8Bytes e.json).map eventOfLine? = events.map some := by
    intro events
    rw [List.map_map]
    exact List.map_congr_left fun e _ => eventOfLine?_json e
  refine ⟨_, hsplit events, hread events, fun others hsame => ?_⟩
  have hlines : others.map (fun e => utf8Bytes e.json) = events.map fun e => utf8Bytes e.json := by
    refine (List.append_left_inj [[]]).mp ?_
    rw [← hsplit others, hsame, hsplit events]
  refine List.map_injective_iff.mpr (Option.some_injective Event) ?_
  rw [← hread others, hlines, hread events]

end SourceSplice.Proofs
