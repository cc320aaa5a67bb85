import SourceSplice.RawPath
import SourceSplice.Report
import SourceSplice.ScanError
/-!
# Run errors

What can go wrong in a whole run, from looking up the root file to opening the outputs: every
scan error, and the errors before and beside the scan.
-/

namespace SourceSplice

/-- What a run can fail with. -/
inductive RunError where
  /-- The root file does not exist or is no file. -/
  | rootNotFound (path : String)
  /-- The scan ended in an error. -/
  | scan (error : ScanError)
  /-- A stage after the scan did not start. -/
  | stageNotStarted (name : String) (fault : Fault)
  /-- An output could not be opened. Its path may be one that spells no text. -/
  | cannotOpenOutput (path : RawPath) (fault : Fault)
  deriving DecidableEq, Repr

namespace RunError

/-- The part of the run in which an error arose. -/
def phase : RunError → String
  | rootNotFound _ => "input"
  | scan (.notStarted _ _) => "generator"
  | scan _ => "scanner"
  | stageNotStarted _ _ => "generator"
  | cannotOpenOutput _ _ => "io"

/-- The file to look into. -/
def file? : RunError → Option String
  | rootNotFound path => some path
  | scan e => e.file?
  | stageNotStarted _ _ => none
  | cannotOpenOutput path _ => path.text?

/-- The line to look at. -/
def line? : RunError → Option Nat
  | scan e => e.line?
  | _ => none

def sourceText? : RunError → Option String
  | scan e => e.sourceText?
  | _ => none

def kindName : RunError → String
  | rootNotFound _ => "RootNotFound"
  | scan e => e.kindName
  | stageNotStarted _ _ => "SpawnError"
  | cannotOpenOutput _ _ => "IoError"

/-- A usage error lies in how the program was called, not in the source text. -/
def isUsage : RunError → Bool
  | rootNotFound _ => true
  | _ => false

def message : RunError → String
  | rootNotFound path => "file not found: " ++ path
  | scan e => e.message
  | stageNotStarted name fault => ScanError.notStartedMessage name fault
  | cannotOpenOutput path fault =>
    "cannot open output '" ++ path.display ++ "': " ++ fault.message

def report (e : RunError) : Report where
  phase := e.phase
  file := e.file?
  line := e.line?
  errorKind := e.kindName
  message := e.message
  sourceText := e.sourceText?

/-- The report of an error, or the text with which making it breaks off, if the line to look at has
no number. -/
def tryReport (e : RunError) : Except String Report :=
  match e.line? with
  | some line => if maxLine < line then .error "attempt to add with overflow" else .ok e.report
  | none => .ok e.report

end RunError

end SourceSplice
