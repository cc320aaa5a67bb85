import SourceSplice.Proofs.PipelineDraining
/-!
# A pipeline and preprocessing agree

Preprocessing folds the items of a scan, and a drained pipeline counts them while its taps write
them. Both come to the same: the same error, or the same number of events and the same text.
-/

namespace SourceSplice.Proofs

/-- The writers take everything that is written to them. -/
def TakesAll (taps : PrintTaps Sink) : Prop :=
  (∀ w, taps.source = some w → w.room = none) ∧ ∀ w, taps.events = some w → w.room = none

/-- What a pipeline has come to once it is drained, if these are the events of its scan up to the
first error. -/
structure Drained (taps : PrintTaps Sink) (p : Pipeline Sink) (events : List Event) : Prop where
  items : (p.scanner.items = events.map .ok ∧ p.tryDrain.1 = .ok events.length) ∨
    ∃ e, p.scanner.items = events.map .ok ++ [.error e] ∧ p.tryDrain.1 = .error (.scan e)
  source : ∀ w, taps.source = some w → ∃ t, p.tryDrain.2.source = some t ∧
    Wrote w (events.filterMap Event.sourceLine?) t
  log : ∀ w, taps.events = some w → ∃ t, p.tryDrain.2.events = some t ∧
    Wrote w (events.map Event.json) t
  /-- So the log has one line for each event. -/
  oneLine : ∀ e ∈ events, '\n' ∉ e.json.toList

/-- Draining a pipeline and preprocessing are two views of one scan. -/
structure SameScan (files : FileSystem) (options : ScanOptions) (root : String)
    (taps : PrintTaps Sink) : Prop where
  /-- There is the same error, or the same number of events, whichever taps there are. -/
  result : (do (← Pipeline.start files options root taps).tryDrain.1) =
    (preprocess files options root).map Preprocessed.events
  /-- The taps have received the events before the error, and the text is the one of
  preprocessing. -/
  output : ∀ p, Pipeline.start files options root taps = .ok p → ∃ events, Drained taps p events ∧
    ∀ out, preprocess files options root = .ok out →
      out.source = asLines (events.filterMap Event.sourceLine?)
  /-- It comes to this however the threads of the pipeline take turns. -/
  threads : ∀ p, Pipeline.start files options root taps = .ok p → ∀ looks, ThreadsAgree p looks

variable {files : FileSystem} {options : ScanOptions} {root : String} {taps : PrintTaps Sink}
  {p : Pipeline Sink}

lemma start_eq_ok (h : Pipeline.start files options root taps = .ok p) :
    ∃ s, Scanner.start files options root = .ok s ∧ p = Pipeline.ofScanner s taps := by
  unfold Pipeline.start at h
  cases hs : Scanner.start files options root with
  | error e =>
    rw [hs] at h
    cases h
  | ok s =>
    rw [hs] at h
    cases h
    exact ⟨s, rfl, rfl⟩

lemma tryDrain_eq_preprocess (files : FileSystem) (options : ScanOptions) (root : String)
    (taps : PrintTaps Sink) : (do (← Pipeline.start files options root taps).tryDrain.1) =
      (preprocess files options root).map Preprocessed.events := by
  unfold Pipeline.start preprocess
  cases Scanner.start files options root with
  | error e => rfl
  | ok s =>
    have hdrain : (Pipeline.ofScanner s taps).tryDrain.1 =
        ((Preprocessed.addAll {} s.run.1).map Preprocessed.events).mapError RunError.scan := by
      rw [addAll_empty, tryDrain_result]
      rfl
    refine hdrain.trans ?_
    simp only
    cases Preprocessed.addAll {} s.run.1 <;> rfl

lemma source_preprocess {out : Preprocessed} {s : Scanner} {events : List Event}
    (hs : Scanner.start files options root = .ok s)
    (hitems : s.items = events.map .ok ∨ ∃ e, s.items = events.map .ok ++ [.error e])
    (h : preprocess files options root = .ok out) :
    out.source = asLines (events.filterMap Event.sourceLine?) := by
  unfold preprocess at h
  rw [hs] at h
  rcases hitems with hitems | ⟨e, hitems⟩
  · have hrun : s.run.1 = events.map .ok := hitems
    simp only [hrun] at h
    cases hadd : Preprocessed.addAll {} (events.map .ok) with
    | error e =>
      rw [hadd] at h
      cases h
    | ok folded =>
      rw [hadd] at h
      cases h
      exact (addAll_source events hadd).trans String.empty_append
  · have hrun : s.run.1 = events.map .ok ++ [.error e] := hitems
    simp only [hrun, addAll_concat_error] at h
    cases h

/-- An error writes nothing. -/
lemma projections_eq {items : List ScanItem} {events : List Event}
    (hitems : items = events.map .ok ∨ ∃ e, items = events.map .ok ++ [.error e]) :
    items.filterMap sourceProjection = events.filterMap Event.sourceLine? ∧
      items.filterMap eventProjection = events.map Event.json := by
  have hok : (events.map (.ok : Event → ScanItem)).filterMap sourceProjection =
        events.filterMap Event.sourceLine? ∧
      (events.map (.ok : Event → ScanItem)).filterMap eventProjection = events.map Event.json := by
    rw [List.filterMap_map, List.filterMap_map]
    exact ⟨rfl, congrFun List.filterMap_eq_map events⟩
  rcases hitems with rfl | ⟨e, rfl⟩
  · exact hok
  · rw [List.filterMap_append, List.filterMap_append, hok.1, hok.2]
    exact ⟨List.append_nil _, List.append_nil _⟩

lemma Drained.eq_of_events {events given : List Event} (h : Drained taps p events)
    (hgiven : p.scanner.items = given.map .ok) : events = given := by
  rcases h.items with ⟨hitems, -⟩ | ⟨e, hitems, -⟩
  · exact map_ok_injective (hitems.symm.trans hgiven)
  · exact absurd (hgiven.symm.trans hitems) (map_ok_ne_concat_error given events e)

lemma Drained.eq_of_error {events given : List Event} {e : ScanError} (h : Drained taps p events)
    (hgiven : p.scanner.items = given.map .ok ++ [.error e]) :
    events = given ∧ p.tryDrain.1 = .error (.scan e) := by
  rcases h.items with ⟨hitems, -⟩ | ⟨e', hitems, hresult⟩
  · exact absurd (hitems.symm.trans hgiven) (map_ok_ne_concat_error events given e)
  · obtain ⟨hmap, he⟩ := List.append_inj' (hitems.symm.trans hgiven) rfl
    cases he
    exact ⟨map_ok_injective hmap, hresult⟩

lemma drained_ofScanner {s : Scanner} {events : List Event} (htaps : TakesAll taps)
    (hitems : s.items = events.map .ok ∨ ∃ e, s.items = events.map .ok ++ [.error e]) :
    Drained taps (Pipeline.ofScanner s taps) events := by
  have hresult : (Pipeline.ofScanner s taps).tryDrain.1 = Pipeline.outcome s.items :=
    tryDrain_result _
  obtain ⟨hlines, hrecords⟩ := projections_eq hitems
  obtain ⟨hsource, hlog⟩ := tryDrain_source_events (Pipeline.ofScanner s taps)
  refine ⟨?_, fun w hw => ?_, fun w hw => ?_, fun e _ => lineFeed_not_mem_json e⟩
  · rw [hresult]
    rcases hitems with h | ⟨e, h⟩
    · exact .inl ⟨h, by rw [h, Pipeline.outcome, tryCount_map_ok]; rfl⟩
    · exact .inr ⟨e, h, by rw [h, Pipeline.outcome, tryCount_concat_error]; rfl⟩
  · have hwrote := wrote_finish (t := { project := sourceProjection, writer := w }) rfl
      (htaps.1 w hw) s.items
    rw [hlines] at hwrote
    refine ⟨_, ?_, hwrote⟩
    rw [hsource, Pipeline.ofScanner, PrintTaps.onScan, hw]
    rfl
  · have hwrote := wrote_finish (t := { project := eventProjection, writer := w }) rfl
      (htaps.2 w hw) s.items
    rw [hrecords] at hwrote
    refine ⟨_, ?_, hwrote⟩
    rw [hlog, Pipeline.ofScanner, PrintTaps.onScan, hw]
    rfl

/-- Preprocessing a root and draining a pipeline over it come to the same, whichever taps are
attached; each tap has written its part of the events up to the first error, and was flushed once,
whatever turns the threads took. -/
theorem drained_pipeline_agrees_with_preprocess (files : FileSystem) (options : ScanOptions)
    (root : String) (taps : PrintTaps Sink) (htaps : TakesAll taps) :
    SameScan files options root taps := by
  refine ⟨tryDrain_eq_preprocess files options root taps, fun p hp => ?_, fun p _ looks => ?_⟩
  · obtain ⟨s, hs, rfl⟩ := start_eq_ok hp
    obtain ⟨events, hitems⟩ := (endsAtError_items s).exists_events
    refine ⟨events, drained_ofScanner htaps hitems, fun out hout => ?_⟩
    exact source_preprocess hs hitems hout
  · exact threadsAgree p (endsAtError_items p.scanner) looks

/-- Two writers that take everything. -/
def twoSinks : PrintTaps Sink where
  source := some {}
  events := some {}

/-- The files are drained with and without the byte that is no text. -/
theorem drained_pipeline_agrees_with_preprocess_including :
    TakesAll twoSinks ∧
      (∃ p, Pipeline.start includingFiles {} "a" twoSinks = .ok p ∧ p.tryDrain.1 = .ok 5 ∧
        (preprocess includingFiles {} "a").map Preprocessed.source = .ok "y\nx\n" ∧
        (∃ t, p.tryDrain.2.source = some t ∧ Wrote {} ["y", "x"] t) ∧
        (∃ t, p.tryDrain.2.events = some t ∧ Wrote {} (includingEvents.map Event.json) t) ∧
        ∀ looks, ThreadsAgree p looks) ∧
      ∃ p, Pipeline.start brokenFiles {} "a" twoSinks = .ok p ∧
        p.tryDrain.1 = .error (.scan (.cannotRead "a" 2 .invalidEncoding)) ∧
        (∃ t, p.tryDrain.2.source = some t ∧ Wrote {} ["y", "x"] t) ∧
        (∃ t, p.tryDrain.2.events = some t ∧ Wrote {} (includingEvents.map Event.json) t) ∧
        ∀ looks, ThreadsAgree p looks := by
  have htaps : TakesAll twoSinks := ⟨fun w hw => by cases hw; rfl, fun w hw => by cases hw; rfl⟩
  have hgood := drained_pipeline_agrees_with_preprocess includingFiles {} "a" twoSinks htaps
  have hbroken := drained_pipeline_agrees_with_preprocess brokenFiles {} "a" twoSinks htaps
  refine ⟨htaps, ⟨_, rfl, ?_⟩, _, rfl, ?_⟩
  · have hout : preprocess includingFiles {} "a" =
        .ok { source := "y\nx\n", events := 5, lines := 2, files := ["a", "b"], maxDepth := 2 } := by
      decide +kernel
    have hresult := hgood.result
    rw [hout] at hresult
    obtain ⟨events, hdrained, -⟩ := hgood.output _ rfl
    obtain rfl := hdrained.eq_of_events (items_includingFiles rfl)
    exact ⟨hresult, by rw [hout]; rfl, hdrained.source _ rfl, hdrained.log _ rfl,
      hgood.threads _ rfl⟩
  · obtain ⟨events, hdrained, -⟩ := hbroken.output _ rfl
    obtain ⟨rfl, hresult⟩ := hdrained.eq_of_error (items_brokenFiles rfl)
    exact ⟨hresult, hdrained.source _ rfl, hdrained.log _ rfl, hbroken.threads _ rfl⟩

end SourceSplice.Proofs
