import SourceSplice.Command.Arguments
import SourceSplice.Excerpt
import SourceSplice.Program
/-!
# The command

What one run of the program does, from its arguments and the files to its exit code, its output
and the files afterwards. A run logs that it starts, drains a pipeline, and either logs how many
events there were or reports the error: as a record if the format is JSON, as text otherwise.
-/

namespace SourceSplice

/-- What a run of the program leaves behind. -/
structure CommandResult where
  exitCode : Nat
  /-- What was written to standard output. -/
  output : List UInt8 := []
  /-- What was written to standard error. -/
  errorOutput : List UInt8 := []
  files : FileTree
  deriving DecidableEq

namespace Command

def version : String :=
  "llamac 0.1.0\n"

def usage : String :=
  "Usage: llamac [OPTIONS] <FILE>\n\n" ++
  "Options:\n" ++
  "  -v, --verbose                 log more (-v info, -vv debug, -vvv trace)\n" ++
  "      --log-scanner <LEVEL>     log threshold of the scanner\n" ++
  "      --log-generator <LEVEL>   log threshold of the generators\n" ++
  "      --format <FORMAT>         pretty, compact or json\n" ++
  "      --log-file <FILE>         log to a file as well\n" ++
  "      --print-source[=<FILE>]   print the source text\n" ++
  "      --print-events[=<FILE>]   print one record for each event\n" ++
  "      --max-include-depth <N>   the most files stacked upon the root\n" ++
  "      --no-cycle-check          let files include each other in a cycle\n" ++
  "  -h, --help                    print this text\n" ++
  "  -V, --version                 print the version\n"

/-- The final report of an error. -/
def errorText (format : LogFormat) (e : RunError) : String :=
  match format with
  | .json => e.report.json ++ "\n"
  | _ => e.terminal

def runFile (files : FileTree) (file : String) (a : Arguments) : CommandResult :=
  let format := a.format.getD .pretty
  let session : Session := { config? := some a.config, files }
  match session.installLogger format a.logFile with
  | (some e, session) =>
    { exitCode := 1, errorOutput := utf8Bytes ("error: " ++ e.message ++ "\n"),
      files := session.files }
  | (none, session) =>
    let session := session.log [.starting file]
    match session.printAll file a.printSource a.printEvents with
    | (.ok events, session) =>
      let session := session.log [.done events]
      { exitCode := 0, output := session.printed.reverse, errorOutput := session.console.reverse,
        files := session.files }
    | (.error e, session) =>
      { exitCode := 1, output := session.printed.reverse,
        errorOutput := session.console.reverse ++ utf8Bytes (errorText format e),
        files := session.files }

def run (files : FileTree) (arguments : List String) : CommandResult :=
  match Arguments.parse arguments with
  | .run file a => runFile files file a
  | .version => { exitCode := 0, output := utf8Bytes version, files }
  | .help => { exitCode := 0, output := utf8Bytes usage, files }
  | .malformed =>
    { exitCode := 2, errorOutput := utf8Bytes ("error: malformed arguments\n\n" ++ usage), files }

/-- The paths that a run of the program looks up, as far as the files that are there lead it. -/
def pathsConsulted (files : FileTree) (arguments : List String) : List String :=
  match Arguments.parse arguments with
  | .run file a =>
    let outputs := a.logFile.toList ++ a.printSource.join.toList ++ a.printEvents.join.toList
    let requests :=
      match Scanner.start files.fileSystem a.config.scan file with
      | .ok scanner => scanner.run.2.requests
      | .error _ => []
    file :: outputs ++ requests
  | _ => []

/-- The places on the way to the paths that a run of the program looks up. -/
def placesConsulted (files : FileTree) (arguments : List String) : List Place :=
  (pathsConsulted files arguments).flatMap files.placesToward

end Command

end SourceSplice
