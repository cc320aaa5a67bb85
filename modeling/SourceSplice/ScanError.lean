import SourceSplice.Directive
import SourceSplice.Fault
/-!
# Scan errors

What can end a scan early, where in the source text it happened, and how it is worded.
-/

namespace SourceSplice

/-- The largest number that a line can have. -/
def maxLine : Nat := UInt64.size - 1

/-- A place in the source text: a line of a file. -/
structure Site where
  file : String
  line : Nat
  deriving DecidableEq, Repr

/-- What can end a scan early. -/
inductive ScanError where
  /-- A file could not be opened; `site` is the include that asked for it, and the root file has
  none. -/
  | cannotOpen (path : String) (site : Option Site) (fault : Fault)
  /-- Reading a file failed after this many of its lines. -/
  | cannotRead (path : String) (linesRead : Nat) (fault : Fault)
  /-- A line is a malformed directive. -/
  | malformed (site : Site) (text : String) (cause : DirectiveError)
  /-- A file includes itself, directly or through others. -/
  | cycle (path : String) (site : Site)
  /-- An include would nest deeper than the limit allows. -/
  | tooDeep (path : String) (site : Site) (limit : Nat)
  /-- A background task did not start. -/
  | notStarted (name : String) (fault : Fault)
  deriving DecidableEq, Repr

namespace Site

/-- A place as it stands in front of a message. -/
def display (s : Site) : String :=
  s.file ++ ":" ++ toString s.line

end Site

namespace ScanError

/-- The remark on the include that asked for a file. -/
def includedFrom : Option Site → String
  | some site => " (included from " ++ site.display ++ ")"
  | none => ""

/-- The wording of a task that did not start. -/
def notStartedMessage (name : String) (fault : Fault) : String :=
  "failed to spawn producer '" ++ name ++ "': " ++ fault.message

def message : ScanError → String
  | cannotOpen path site fault =>
    "cannot open '" ++ path ++ "'" ++ includedFrom site ++ ": " ++ fault.message
  | cannotRead path linesRead fault =>
    "read failure in '" ++ path ++ "' after line " ++ toString linesRead ++ ": " ++ fault.message
  | malformed site _ cause => site.display ++ ": " ++ cause.message
  | cycle path site =>
    site.display ++ ": include cycle, '" ++ path ++ "' is already being scanned"
  | tooDeep path site limit =>
    site.display ++ ": including '" ++ path ++ "' exceeds the include depth limit of "
      ++ toString limit
  | notStarted name fault => notStartedMessage name fault

/-- The file to look into: the one that holds the include, where an include is at fault. -/
def file? : ScanError → Option String
  | cannotOpen _ (some site) _ => some site.file
  | cannotOpen path none _ => some path
  | cannotRead path _ _ => some path
  | malformed site _ _ => some site.file
  | cycle _ site => some site.file
  | tooDeep _ site _ => some site.file
  | notStarted _ _ => none

/-- The line to look at. Reading failed on the line after the last one read. -/
def line? : ScanError → Option Nat
  | cannotOpen _ site _ => site.map Site.line
  | cannotRead _ linesRead _ => some (linesRead + 1)
  | malformed site _ _ => some site.line
  | cycle _ site => some site.line
  | tooDeep _ site _ => some site.line
  | notStarted _ _ => none

/-- The source line itself, where the error lies in its text. -/
def sourceText? : ScanError → Option String
  | malformed _ text _ => some text
  | _ => none

def kindName : ScanError → String
  | cannotOpen _ _ _ => "OpenError"
  | cannotRead _ _ _ => "ReadError"
  | malformed _ _ _ => "SyntaxError"
  | cycle _ _ => "IncludeCycle"
  | tooDeep _ _ _ => "IncludeDepthExceeded"
  | notStarted _ _ => "SpawnError"

end ScanError

end SourceSplice
