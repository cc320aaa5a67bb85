import SourceSplice.Record
/-!
# Error reports

The structured form of an error: six fields that a tool can read, with three written forms. The
record form always has the fields `file` and `line`, empty if unknown, while `source_text` is
left out if there is none.
-/

namespace SourceSplice

/-- An error in structured form. -/
structure Report where
  /-- The part of the work in which the error arose. -/
  phase : String
  file : Option String
  line : Option Nat
  errorKind : String
  message : String
  sourceText : Option String
  deriving DecidableEq, Repr

namespace Report

/-- A text field that is empty if there is no text. -/
def textOrNull : Option String → Record.Value
  | some s => .text s
  | none => .null

/-- A number field that is empty if there is no number. -/
def numberOrNull : Option Nat → Record.Value
  | some n => .number n
  | none => .null

@[simp] theorem textOrNull_eq_text_iff {o : Option String} {s : String} :
    textOrNull o = .text s ↔ o = some s := by
  cases o <;> simp [textOrNull]

@[simp] theorem textOrNull_eq_null_iff {o : Option String} : textOrNull o = .null ↔ o = none := by
  cases o <;> simp [textOrNull]

@[simp] theorem numberOrNull_eq_number_iff {o : Option Nat} {n : Nat} :
    numberOrNull o = .number n ↔ o = some n := by
  cases o <;> simp [numberOrNull]

@[simp] theorem numberOrNull_eq_null_iff {o : Option Nat} :
    numberOrNull o = .null ↔ o = none := by
  cases o <;> simp [numberOrNull]

def record (r : Report) : Record :=
  [("phase", .text r.phase), ("file", textOrNull r.file), ("line", numberOrNull r.line),
    ("error_kind", .text r.errorKind), ("message", .text r.message)] ++
    match r.sourceText with
    | some s => [("source_text", .text s)]
    | none => []

/-- A report as one line for a tool. -/
def json (r : Report) : String :=
  r.record.render

/-- A report as one line for a reader: the place is named if both its parts are known. -/
def display (r : Report) : String :=
  let place :=
    match r.file, r.line with
    | some file, some line => "[" ++ file ++ ":" ++ toString line ++ "] " ++ r.phase
    | _, _ => "[" ++ r.phase ++ "]"
  place ++ " error: " ++ r.message

/-- A report in short: phase and message. -/
def short (r : Report) : String :=
  r.phase ++ ": " ++ r.message

/-- The text that a field may hold. -/
def textOfValue? : Record.Value → Option (Option String)
  | .text s => some (some s)
  | .null => some none
  | .number _ => none

/-- The number that a field may hold. -/
def numberOfValue? : Record.Value → Option (Option Nat)
  | .number n => some (some n)
  | .null => some none
  | .text _ => none

/-- The report that a record describes. -/
def ofRecord? : Record → Option Report
  | ("phase", .text phase) :: ("file", file) :: ("line", line) :: ("error_kind", .text errorKind)
      :: ("message", .text message) :: rest => do
    let file ← textOfValue? file
    let line ← numberOfValue? line
    match rest with
    | [] => return { phase, file, line, errorKind, message, sourceText := none }
    | [("source_text", .text s)] =>
      return { phase, file, line, errorKind, message, sourceText := some s }
    | _ => none
  | _ => none

theorem ofRecord?_record (r : Report) : ofRecord? r.record = some r := by
  obtain ⟨phase, file, line, errorKind, message, sourceText⟩ := r
  cases file <;> cases line <;> cases sourceText <;> rfl

end Report

end SourceSplice
