import SourceSplice.Log
/-!
# Command line arguments

The options of the command line. An option's value follows it as the next argument or after an
equals sign; an argument that starts with a dash, other than a single dash, is never the value of
the option before it. Every option may be given once, except `-v`. The first fault ends the
reading, and so does a request for the version or for help.
-/

namespace SourceSplice

/-- What the command line asks for. -/
structure Arguments where
  file : Option String := none
  /-- How often more logging was asked for. -/
  verbosity : Nat := 0
  scannerLevel : Option Level := none
  generatorLevel : Option Level := none
  format : Option LogFormat := none
  logFile : Option String := none
  /-- Where the source text is to be printed: a path, or standard output. -/
  printSource : Option (Option String) := none
  printEvents : Option (Option String) := none
  maxIncludeDepth : Option Nat := none
  noCycleCheck : Bool := false
  deriving DecidableEq, Repr

/-- What reading a command line comes to. -/
inductive Invocation where
  | run (file : String) (a : Arguments)
  | version
  | help
  | malformed
  deriving DecidableEq, Repr

namespace Arguments

def level? : String → Option Level
  | "error" => some .error
  | "warn" => some .warn
  | "info" => some .info
  | "debug" => some .debug
  | "trace" => some .trace
  | _ => none

def format? : String → Option LogFormat
  | "pretty" => some .pretty
  | "compact" => some .compact
  | "json" => some .json
  | _ => none

/-- A number in decimal digits, perhaps after a plus sign, that fits into 64 bits. -/
def number? (text : String) : Option Nat :=
  let digits :=
    match text.toList with
    | '+' :: rest => rest
    | all => all
  if digits ≠ [] ∧ digits.all Char.isDigit then
    let n := Nat.ofDigitChars 10 digits 0
    if n < UInt64.size then some n else none
  else none

/-- A path that is not empty. -/
def path? (text : String) : Option String :=
  if text = "" then none else some text

/-- Fills a field that is still empty. -/
def once {β : Type} (field : Option β) (value : Option β) : Option β :=
  match field with
  | some _ => none
  | none => value

def setFile (a : Arguments) (file : String) : Option Arguments := do
  return { a with file := some (← once a.file (some file)) }

/-- Takes an option that needs a value; nothing if there is no such option, or with a reason to
refuse it. -/
def setValue? (a : Arguments) (name value : String) : Option (Option Arguments) :=
  match name with
  | "log-scanner" => some do
    return { a with scannerLevel := some (← once a.scannerLevel (level? value)) }
  | "log-generator" => some do
    return { a with generatorLevel := some (← once a.generatorLevel (level? value)) }
  | "format" => some do return { a with format := some (← once a.format (format? value)) }
  | "log-file" => some do return { a with logFile := some (← once a.logFile (path? value)) }
  | "max-include-depth" => some do
    return { a with maxIncludeDepth := some (← once a.maxIncludeDepth (number? value)) }
  | _ => none

def needsValue (name : String) : Bool :=
  (setValue? {} name "").isSome

/-- Takes an option that has no value or one after an equals sign. -/
def setFlag (a : Arguments) (name : String) (value : Option String) : Option Arguments :=
  match name, value with
  | "verbose", none => some { a with verbosity := a.verbosity + 1 }
  | "no-cycle-check", none => if a.noCycleCheck then none else some { a with noCycleCheck := true }
  | "print-source", none => do
    return { a with printSource := some (← once a.printSource (some none)) }
  | "print-source", some path => do
    return { a with printSource := some (← once a.printSource ((path? path).map some)) }
  | "print-events", none => do
    return { a with printEvents := some (← once a.printEvents (some none)) }
  | "print-events", some path => do
    return { a with printEvents := some (← once a.printEvents ((path? path).map some)) }
  | _, _ => none

/-- Reads the letters of a group of short options. -/
def readLetters (a : Arguments) : List Char → Except Invocation Arguments
  | [] => .ok a
  | 'v' :: rest => readLetters { a with verbosity := a.verbosity + 1 } rest
  | 'V' :: _ => .error .version
  | 'h' :: _ => .error .help
  | _ => .error .malformed

/-- Splits a long option into its name and what follows an equals sign. -/
def splitOption (text : List Char) : String × Option String :=
  let name := String.ofList (text.takeWhile (· != '='))
  match text.dropWhile (· != '=') with
  | [] => (name, none)
  | _ :: value => (name, some (String.ofList value))

/-- Whether an argument can be the value of the option before it. -/
def isValue (argument : String) : Bool :=
  argument == "-" || !argument.startsWith "-"

/-- The end of the reading: there must be a root file. -/
def finish (a : Arguments) : Invocation :=
  match a.file with
  | some file => .run file a
  | none => .malformed

/-- Reads arguments among which there are no options. -/
def readOperands (a : Arguments) : List String → Invocation
  | [] => a.finish
  | argument :: rest =>
    match a.setFile argument with
    | some a => readOperands a rest
    | none => .malformed

def read (a : Arguments) : List String → Invocation
  | [] => a.finish
  | argument :: rest =>
    match argument.toList with
    | ['-', '-'] => readOperands a rest
    | '-' :: '-' :: text =>
      match splitOption text with
      | ("version", none) => .version
      | ("help", none) => .help
      | (name, some value) =>
        match (a.setValue? name value).getD (a.setFlag name (some value)) with
        | some a => read a rest
        | none => .malformed
      | (name, none) =>
        if needsValue name then
          match rest with
          | [] => .malformed
          | value :: rest =>
            if isValue value then
              match (a.setValue? name value).join with
              | some a => read a rest
              | none => .malformed
            else .malformed
        else
          match a.setFlag name none with
          | some a => read a rest
          | none => .malformed
    | '-' :: letter :: letters =>
      match a.readLetters (letter :: letters) with
      | .ok a => read a rest
      | .error invocation => invocation
    | _ =>
      match a.setFile argument with
      | some a => read a rest
      | none => .malformed

def parse (arguments : List String) : Invocation :=
  read {} arguments

def globalLevel (a : Arguments) : Level :=
  match a.verbosity with
  | 0 => .warn
  | 1 => .info
  | 2 => .debug
  | _ => .trace

def config (a : Arguments) : Config where
  globalLevel := a.globalLevel
  generatorLevel := a.generatorLevel
  scannerLevel := a.scannerLevel
  scan :=
    { maxIncludeDepth := a.maxIncludeDepth.getD ({} : ScanOptions).maxIncludeDepth
      detectCycles := !a.noCycleCheck }

end Arguments

end SourceSplice
