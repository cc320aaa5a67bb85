import Mathlib.Tactic
import SourceSplice.Proofs.RecordReading
import SourceSplice.RunError
/-!
# Reports are read back

The report of an error is written as one line from which each of its fields is read back: two of
them are empty if they are unknown, and one is left out. So the lines of different reports differ.
Only one report cannot be made, that of a failed reading behind the last line that has a number.
-/

namespace SourceSplice.Proofs

section Fields

/-- What a reader of a record finds under each name is what stands in a report. -/
structure Tells (fields : Record) (r : Report) : Prop where
  names_nodup : (fields.map Prod.fst).Nodup
  phase : fields.lookup "phase" = some (.text r.phase)
  file_iff : ∀ file, fields.lookup "file" = some (.text file) ↔ r.file = some file
  file_null_iff : fields.lookup "file" = some .null ↔ r.file = none
  line_iff : ∀ line, fields.lookup "line" = some (.number line) ↔ r.line = some line
  line_null_iff : fields.lookup "line" = some .null ↔ r.line = none
  errorKind : fields.lookup "error_kind" = some (.text r.errorKind)
  message : fields.lookup "message" = some (.text r.message)
  sourceText_iff : ∀ text, fields.lookup "source_text" = some (.text text) ↔
    r.sourceText = some text
  sourceText_missing_iff : fields.lookup "source_text" = none ↔ r.sourceText = none

lemma tells_record (r : Report) : Tells r.record r := by
  have hfile : r.record.lookup "file" = some (Report.textOrNull r.file) := rfl
  have hline : r.record.lookup "line" = some (Report.numberOrNull r.line) := rfl
  have hsource : r.record.lookup "source_text" = r.sourceText.map .text := by
    obtain ⟨phase, file, line, errorKind, message, sourceText⟩ := r
    cases sourceText <;> rfl
  have hnames : (r.record.map Prod.fst).Nodup := by
    obtain ⟨phase, file, line, errorKind, message, sourceText⟩ := r
    cases sourceText <;> simp [Report.record]
  refine ⟨hnames, rfl, fun file => ?_, ?_, fun line => ?_, ?_, rfl, rfl, fun text => ?_, ?_⟩
  · rw [hfile, Option.some.injEq, Report.textOrNull_eq_text_iff]
  · rw [hfile, Option.some.injEq, Report.textOrNull_eq_null_iff]
  · rw [hline, Option.some.injEq, Report.numberOrNull_eq_number_iff]
  · rw [hline, Option.some.injEq, Report.numberOrNull_eq_null_iff]
  · rw [hsource]
    simp
  · rw [hsource, Option.map_eq_none_iff]

lemma json_injective : Function.Injective Report.json := by
  intro r r' h
  have hrecord : r.record = r'.record := render_injective h
  have hreport := congrArg Report.ofRecord? hrecord
  rw [Report.ofRecord?_record, Report.ofRecord?_record] at hreport
  exact Option.some.inj hreport

end Fields

section Errors

/-- The numbers in an error are such as fit in a word of the machine. -/
def WordSized : RunError → Prop
  | .scan (.cannotOpen _ site _) => ∀ s, site = some s → s.line ≤ maxLine
  | .scan (.cannotRead _ linesRead _) => linesRead ≤ maxLine
  | .scan (.malformed site _ _) => site.line ≤ maxLine
  | .scan (.cycle _ site) => site.line ≤ maxLine
  | .scan (.tooDeep _ site limit) => site.line ≤ maxLine ∧ limit ≤ maxLine
  | _ => True

/-- The report of an error is made, and it stands in one line from which it is read back. -/
structure ReadsBack (e : RunError) (r : Report) : Prop where
  made : e.tryReport = .ok r
  fields : r = e.report
  line_le : ∀ line, r.line = some line → line ≤ maxLine
  /-- No control character stands in it, and so no line feed and no carriage return. -/
  noControls : NoControls r.json.toList
  read : ∃ fields, Record.read? r.json = some fields ∧ Tells fields r ∧
    Report.ofRecord? fields = some r
  unique : ∀ e' r', RunError.tryReport e' = .ok r' → r'.json = r.json → r' = r

variable {e : RunError} {r : Report}

lemma tryReport_eq_ok_iff : e.tryReport = .ok r ↔
    r = e.report ∧ ∀ line, e.line? = some line → line ≤ maxLine := by
  unfold RunError.tryReport
  cases e.line? with
  | none => simp [eq_comm]
  | some line =>
    by_cases hline : maxLine < line
    · simp [hline]
    · simp [hline, Nat.le_of_not_lt hline, eq_comm]

lemma readsBack_of_made (h : e.tryReport = .ok r) : ReadsBack e r := by
  obtain ⟨rfl, hline⟩ := tryReport_eq_ok_iff.mp h
  have hread : Record.read? e.report.json = some e.report.record := read?_render _
  exact ⟨h, rfl, hline, noControls_render _,
    ⟨_, hread, tells_record _, Report.ofRecord?_record _⟩,
    fun _ _ _ hjson => json_injective hjson⟩

lemma line?_le_iff (h : WordSized e) : (∀ line, e.line? = some line → line ≤ maxLine) ↔
    ∀ path fault, e ≠ .scan (.cannotRead path maxLine fault) := by
  match e, h with
  | .rootNotFound _, _ | .stageNotStarted _ _, _ | .cannotOpenOutput _ _, _
  | .scan (.notStarted _ _), _ | .scan (.cannotOpen _ none _), _ =>
    exact iff_of_true nofun nofun
  | .scan (.cannotOpen _ (some site) _), h =>
    exact iff_of_true (fun line hline => Option.some.inj hline ▸ h site rfl) nofun
  | .scan (.malformed _ _ _), h | .scan (.cycle _ _), h =>
    exact iff_of_true (fun line hline => Option.some.inj hline ▸ h) nofun
  | .scan (.tooDeep _ _ _), h =>
    exact iff_of_true (fun line hline => Option.some.inj hline ▸ h.1) nofun
  | .scan (.cannotRead path linesRead fault), h =>
    -- the line at fault is the one behind those that were read
    have hread : linesRead ≤ maxLine := h
    constructor
    · rintro hline _ _ ⟨⟩
      exact absurd (hline _ rfl) (Nat.not_succ_le_self maxLine)
    · rintro hne _ ⟨⟩
      refine Nat.lt_of_le_of_ne hread ?_
      rintro rfl
      exact hne path fault rfl

/-- An error has a report, except if reading failed behind the last line that has a number. Its
report stands in one line without control characters, each of its fields is read back from there,
and the lines of different reports differ. -/
theorem report_reads_back_iff (e : RunError) (h : WordSized e) :
    (∃ r, ReadsBack e r) ↔ ∀ path fault, e ≠ .scan (.cannotRead path maxLine fault) := by
  rw [← line?_le_iff h]
  constructor
  · rintro ⟨r, hr⟩
    exact (tryReport_eq_ok_iff.mp hr.made).2
  · intro hline
    exact ⟨e.report, readsBack_of_made (tryReport_eq_ok_iff.mpr ⟨rfl, hline⟩)⟩

/-- A malformed directive on the last line that has a number, in a file whose name has a quote and a
line feed. -/
theorem report_reads_back_iff_escaped :
    WordSized (.scan (.malformed ⟨"a\"\n", maxLine⟩ "#\x01\\" (.unknown "#\x01\\"))) ∧
      ∃ r, ReadsBack (.scan (.malformed ⟨"a\"\n", maxLine⟩ "#\x01\\" (.unknown "#\x01\\"))) r ∧
        r.file = some "a\"\n" ∧ r.line = some 18446744073709551615 ∧
        r.json = "\x7b\"phase\":\"scanner\",\"file\":\"a\\\"\\n\"," ++
          "\"line\":18446744073709551615,\"error_kind\":\"SyntaxError\"," ++
          "\"message\":\"a\\\"\\n:18446744073709551615: invalid preprocessor directive: " ++
          "#\\u0001\\\\\",\"source_text\":\"#\\u0001\\\\\"\x7d" := by
  have hsized : WordSized
      (.scan (.malformed ⟨"a\"\n", maxLine⟩ "#\x01\\" (.unknown "#\x01\\"))) := le_refl maxLine
  obtain ⟨r, hr⟩ := (report_reads_back_iff _ hsized).mpr nofun
  refine ⟨hsized, r, hr, ?_⟩
  rw [hr.fields]
  exact ⟨rfl, rfl, by decide +kernel⟩

/-- Reading can fail behind the last line that has a number, and then there is no report. -/
theorem no_report_behind_last_line :
    WordSized (.scan (.cannotRead "p" maxLine (.reported .other "m"))) ∧
      ¬∃ r, ReadsBack (.scan (.cannotRead "p" maxLine (.reported .other "m"))) r := by
  refine ⟨le_refl maxLine, ?_⟩
  rintro ⟨r, hr⟩
  exact absurd ((tryReport_eq_ok_iff.mp hr.made).2 _ rfl) (Nat.not_succ_le_self maxLine)

end Errors

end SourceSplice.Proofs
