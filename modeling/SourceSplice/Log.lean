import SourceSplice.Config
/-!
# Log entries

What the program notes down about its own work, in which format, and which entries a logger lets
through. The compact format is one line per entry: its level flush right in five columns, the
message, and the fields. The two other formats add the time and are not written here.
-/

namespace SourceSplice

/-- The formats of a log, which are also those of a final error report. -/
inductive LogFormat where
  | pretty
  | compact
  | json
  deriving DecidableEq, Repr

/-- One entry of a log. -/
structure LogEntry where
  phase : Phase
  level : Level
  message : String
  fields : List (String × String) := []
  deriving DecidableEq, Repr

namespace LogEntry

/-- An entry as a line of the compact format. -/
def compact (e : LogEntry) : String :=
  String.ofList (List.replicate (5 - e.level.name.length) ' ') ++ e.level.name ++ " " ++ e.message
    ++ String.join (e.fields.map fun f => " " ++ f.1 ++ "=" ++ f.2) ++ "\n"

example :
    compact ⟨.scanner, .warn, "scan aborted", [("error", "x")]⟩ = " WARN scan aborted error=x\n" := by
  decide +kernel

/-- The entry about the error that ends a scan. -/
def scanAborted (e : ScanError) : LogEntry :=
  ⟨.scanner, .warn, "scan aborted", [("error", e.message)]⟩

/-- The entry about a tap whose writer failed. -/
def tapFailed (f : Fault) : LogEntry :=
  ⟨.generator, .warn, "tap writer failed, output disabled", [("error", f.message)]⟩

/-- The entry about a tap whose final flush failed. -/
def flushFailed (f : Fault) : LogEntry :=
  ⟨.generator, .warn, "tap writer flush failed", [("error", f.message)]⟩

/-- The entry about a finished preprocessing. -/
def preprocessed (events lines files maxDepth : Nat) : LogEntry :=
  ⟨.scanner, .info, "preprocess completed",
    [("events", toString events), ("lines", toString lines), ("files", toString files),
      ("max_depth", toString maxDepth)]⟩

/-- The entry about the start of the program. -/
def starting (file : String) : LogEntry :=
  ⟨.cli, .info, "starting", [("file", file)]⟩

/-- The entry about the end of a successful run. -/
def done (events : Nat) : LogEntry :=
  ⟨.cli, .info, "done", [("events", toString events)]⟩

end LogEntry

/-- A logger: its thresholds and its format. -/
structure Logger where
  /-- The settings that were in force when the logger was installed. -/
  config : Config
  format : LogFormat
  /-- The place that takes the log beside standard error. -/
  file : Option (List String) := none
  deriving DecidableEq, Repr

namespace Logger

/-- Whether entries of a phase and level are let through. -/
def admits (l : Logger) (phase : Phase) (level : Level) : Bool :=
  (l.config.levelFor phase).admits level

/-- Whether entries of a level are let through that belong to no phase. -/
def admitsOther (l : Logger) (level : Level) : Bool :=
  l.config.globalLevel.admits level

/-- The text that an entry adds to a log, in the compact format. -/
def line (l : Logger) (e : LogEntry) : String :=
  match l.format with
  | .compact => if l.admits e.phase e.level then e.compact else ""
  | _ => ""

end Logger

end SourceSplice
