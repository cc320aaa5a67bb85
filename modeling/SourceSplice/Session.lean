import SourceSplice.Log
import SourceSplice.Output
/-!
# Sessions

The state that lives as long as the process: the configuration and the logger, each of which can
be set once only, the files, and what was written to standard output and to standard error.
Until a configuration is set the default one is in force; a logger keeps the thresholds that were
in force when it was installed.
-/

namespace SourceSplice

/-- Why a logger was not installed. -/
inductive LoggerError where
  | cannotOpenFile (path : String) (fault : Fault)
  | alreadyInstalled
  deriving DecidableEq, Repr

namespace LoggerError

def kindName : LoggerError → String
  | cannotOpenFile _ _ => "LogFile"
  | alreadyInstalled => "Install"

def message : LoggerError → String
  | cannotOpenFile path fault => "cannot open log file '" ++ path ++ "': " ++ fault.message
  | alreadyInstalled =>
    "global logger already installed: a global default trace dispatcher has already been set"

end LoggerError

/-- The state of a process. -/
structure Session where
  config? : Option Config := none
  logger? : Option Logger := none
  files : FileTree := .empty
  /-- The bytes on standard output, the latest first. -/
  printed : List UInt8 := []
  /-- The bytes on standard error, the latest first. -/
  console : List UInt8 := []
  deriving DecidableEq

namespace Session

def config (s : Session) : Config :=
  s.config?.getD {}

/-- Sets the configuration, or hands back one that comes too late. -/
def setConfig (s : Session) (c : Config) : Option Config × Session :=
  match s.config? with
  | some _ => (some c, s)
  | none => (none, { s with config? := some c })

/-- Opens a log file for appending. -/
def openLog (files : FileTree) (path : String) : Except LoggerError (Place × FileTree) :=
  match files.target path with
  | .ok (place, some _) => .ok (place, files)
  | .ok (place, none) => .ok (place, files.put place (.file .empty))
  | .error fault => .error (.cannotOpenFile path fault)

/-- Installs a logger; its file is opened even if there is one already, but then it is closed
again. -/
def installLogger (s : Session) (format : LogFormat) (path : Option String) :
    Option LoggerError × Session :=
  let opened : Except LoggerError (Option Place × FileTree) :=
    match path with
    | none => .ok (none, s.files)
    | some path => (openLog s.files path).map fun r => (some r.1, r.2)
  match opened with
  | .error e => (some e, s)
  | .ok (file, files) =>
    match s.logger? with
    | some _ => (some .alreadyInstalled, { s with files })
    | none =>
      let files := (file.map (files.hold files.freeNumber)).getD files
      (none, { s with files, logger? := some { config := s.config, format, file } })

/-- Brings bytes to what stands at a place: a stream of the process takes them next, and a file
from a position on, or after its end if none is given. -/
def bring (s : Session) (place : Place) (position : Option Nat) (bytes : List UInt8) : Session :=
  match s.files.entry? place, position with
  | some .standardOutput, _ => { s with printed := bytes.reverseAux s.printed }
  | some .standardError, _ => { s with console := bytes.reverseAux s.console }
  | _, some position => { s with files := s.files.writeAt place position ⟨bytes.toArray⟩ }
  | _, none => { s with files := s.files.append place ⟨bytes.toArray⟩ }

/-- Logs an entry on standard error, and then in the log file. -/
def logEntry (s : Session) (e : LogEntry) : Session :=
  match s.logger? with
  | none => s
  | some logger =>
    let bytes := utf8Bytes (logger.line e)
    let s := { s with console := bytes.reverseAux s.console }
    match logger.file with
    | some place => s.bring place none bytes
    | none => s

def log (s : Session) (entries : List LogEntry) : Session :=
  entries.foldl logEntry s

/-- Brings what an output has passed on to where it goes. -/
def deliver (s : Session) (o : Output) : Output × Session :=
  match o.passedOn with
  | [] => (o, s)
  | passedOn =>
    let arrived := { o with passedOn := [], delivered := o.delivered + passedOn.length }
    match o.outlet with
    | .standard => (arrived, { s with printed := passedOn ++ s.printed })
    | .opened place => (arrived, s.bring place (some o.delivered) passedOn.reverse)
    | .full => (arrived, s)

/-- The levels whose entries of a phase are let through. -/
def enabledLevels (s : Session) (phase : Phase) : List Level :=
  Level.all.filter fun level => s.logger?.any (·.admits phase level)

/-- The levels whose entries are let through that belong to no phase. -/
def enabledOther (s : Session) : List Level :=
  Level.all.filter fun level => s.logger?.any (·.admitsOther level)

/-- Whether the details of a phase are logged. -/
def isEnabled (s : Session) (phase : Phase) : Bool :=
  s.logger?.any (·.admits phase .debug)

end Session

end SourceSplice
