import SourceSplice.Scanner
/-!
# Configuration

How much is logged and how far a scan may go. Log levels are set for the whole program and may be
set anew for single phases of its work.
-/

namespace SourceSplice

/-- How grave a log entry is. -/
inductive Level where
  | error
  | warn
  | info
  | debug
  | trace
  deriving DecidableEq, Repr

namespace Level

def all : List Level :=
  [error, warn, info, debug, trace]

/-- The position of a level among all levels. -/
def rank : Level → Nat
  | error => 0
  | warn => 1
  | info => 2
  | debug => 3
  | trace => 4

def name : Level → String
  | error => "ERROR"
  | warn => "WARN"
  | info => "INFO"
  | debug => "DEBUG"
  | trace => "TRACE"

def ofName? (name : String) : Option Level :=
  all.find? fun level => level.name == name

/-- Whether a threshold lets entries of a level through: it does so for those at least as
grave. -/
def admits (threshold level : Level) : Bool :=
  level.rank ≤ threshold.rank

end Level

/-- The phases of the program's work that log under their own names. -/
inductive Phase where
  | generator
  | scanner
  | cli
  deriving DecidableEq, Repr

namespace Phase

def all : List Phase :=
  [generator, scanner, cli]

def name : Phase → String
  | generator => "generator"
  | scanner => "scanner"
  | cli => "cli"

/-- The name under which the entries of a phase are logged. -/
def target (p : Phase) : String :=
  "llamac::" ++ p.name

end Phase

structure Config where
  globalLevel : Level := .warn
  generatorLevel : Option Level := none
  scannerLevel : Option Level := none
  scan : ScanOptions := {}
  deriving DecidableEq, Repr

namespace Config

def levelFor (c : Config) : Phase → Level
  | .generator => c.generatorLevel.getD c.globalLevel
  | .scanner => c.scannerLevel.getD c.globalLevel
  | .cli => c.globalLevel

end Config

end SourceSplice
