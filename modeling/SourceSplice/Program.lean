import SourceSplice.Output
import SourceSplice.Pipeline
import SourceSplice.Preprocess
import SourceSplice.Scanner.Live
import SourceSplice.Session
/-!
# The program's operations

Scanning, preprocessing and running a pipeline over the files of a session, under the
configuration that is in force, with the log entries that each of them makes. A pipeline prints
every item before the scan goes on, so a scan can read what was printed to its files.
-/

namespace SourceSplice

namespace Session

/-- The entries about the items of a whole scan: the error that ended it. -/
def scanEntries : List ScanItem → List LogEntry
  | [] => []
  | .error e :: items => LogEntry.scanAborted e :: scanEntries items
  | .ok _ :: items => scanEntries items

def scanAll (s : Session) (root : String) : Except RunError (List ScanItem) × Session :=
  match Scanner.start s.files.fileSystem s.config.scan root with
  | .error e => (.error e, s)
  | .ok scanner => (.ok scanner.items, s.log (scanEntries scanner.items))

/-- The entries about a preprocessing. A root file that does not open is no part of a scan. -/
def preprocessEntries : Except RunError Preprocessed → List LogEntry
  | .ok p => [LogEntry.preprocessed p.events p.lines p.files.length p.maxDepth]
  | .error (.scan (.cannotOpen _ none _)) => []
  | .error (.scan e) => [LogEntry.scanAborted e]
  | .error _ => []

def preprocessAll (s : Session) (root : String) : Except RunError Preprocessed × Session :=
  let result := preprocess s.files.fileSystem s.config.scan root
  (result, s.log (preprocessEntries result))

/-- Opens the print targets of a pipeline, that of the source text before that of the events. A
target is a path, or standard output; a file that was opened stays even if the next one fails. -/
def openTargets (s : Session) (source events : Option (Option String)) :
    Except RunError (PrintTaps Output) × Session :=
  let openOne (s : Session) : Option (Option String) → Except RunError (Option Output) × Session
    | none => (.ok none, s)
    | some target =>
      match Output.openTarget s.files target with
      | .ok (output, files) => (.ok (some output), { s with files })
      | .error e => (.error e, s)
  match openOne s source with
  | (.error e, s) => (.error e, s)
  | (.ok source, s) =>
    match openOne s events with
    | (.error e, s) => (.error e, s)
    | (.ok events, s) => (.ok { source, events }, s)

/-- The entries about the faults that an act of a tap brought up. -/
def tapEntries (before after : Tap ScanItem Output) : List LogEntry :=
  let failure := if before.failure.isNone then after.failure else none
  (failure.map LogEntry.tapFailed).toList ++ (after.flushFailure.map LogEntry.flushFailed).toList

/-- Lets a tap act, if there is one: what its writer passes on is delivered. -/
def letAct (s : Session) (act : Tap ScanItem Output → Tap ScanItem Output) :
    Option (Tap ScanItem Output) → Option (Tap ScanItem Output) × Session
  | none => (none, s)
  | some tap =>
    let after := act tap
    let (writer, s) := s.deliver after.writer
    (some { after with writer }, s.log (tapEntries tap after))

/-- Lets both taps act, that on the source text first. -/
def letTapsAct (s : Session) (act : Tap ScanItem Output → Tap ScanItem Output)
    (taps : ScanTaps Output) : ScanTaps Output × Session :=
  let (source, s) := s.letAct act taps.source
  let (events, s) := s.letAct act taps.events
  ({ source, events }, s)

/-- More items than any run prints. A scan that is printed to a file which it reads may have no
end. -/
def maxItems : Nat := Nat.pow 2 62

/-- Prints the items of a scan one after the other, at most so many, and ends the taps: the number
of events, those that were printed before included, or the error. -/
def printItems (s : Session) (taps : ScanTaps Output) (scan : LiveScan) (printed : Nat) :
    (atMost : Nat) → Except RunError Nat × Session
  | 0 => (.ok printed, (s.letTapsAct Tap.finish taps).2)
  | atMost + 1 =>
    match scan.next s.files with
    | (none, _) => (.ok printed, (s.letTapsAct Tap.finish taps).2)
    | (some x, scan) =>
      let (taps, s) := (s.log (scanEntries [x])).letTapsAct (·.pass x) taps
      match x with
      | .ok _ => printItems s taps scan (printed + 1) atMost
      | .error e => (.error (.scan e), (s.letTapsAct Tap.finish taps).2)

/-- Drains a pipeline over a root file: the number of events or the error, and the session with
everything printed and all targets closed. -/
def printAll (s : Session) (root : String) (source events : Option (Option String)) :
    Except RunError Nat × Session :=
  let (result, last) : Except RunError Nat × Session :=
    match s.openTargets source events with
    | (.error e, s) => (.error e, s)
    | (.ok taps, s) =>
      match LiveScan.start s.files s.config.scan root with
      | .error e => (.error e, s)
      | .ok scan => s.printItems taps.onScan scan 0 maxItems
  (result, { last with files := last.files.closeSince s.files })

/-- Works in a new directory beside the present one. No path spells its name. -/
def inNewDirectory {β : Type} (s : Session) (name : String) (work : Session → β × Session) :
    β × Session :=
  let here := s.files.working
  let place := here.dropLast ++ [FileTree.privateName name]
  let (result, s) := work { s with files := { s.files.put place .directory with working := place } }
  (result, { s with files := { s.files with working := here } })

end Session

end SourceSplice
