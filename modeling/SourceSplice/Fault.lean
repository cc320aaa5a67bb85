/-!
# Input and output faults

Why a file could not be opened, read or written. A fault is either one that this library finds
itself, one of the operating system's, or one that the medium reports in its own words.
-/

namespace SourceSplice

/-- The classes into which a medium sorts the faults that it reports in its own words. -/
inductive FaultClass where
  | notFound
  | permissionDenied
  | interrupted
  | unexpectedEnd
  | invalidData
  | other
  deriving DecidableEq, Repr

/-- Faults that the operating system reports by number. -/
inductive SystemFault where
  | noSuchEntry
  | noSuchDevice
  | notADirectory
  | isADirectory
  | noSpaceLeft
  | nameTooLong
  deriving DecidableEq, Repr

def SystemFault.code : SystemFault → Nat
  | .noSuchEntry => 2
  | .noSuchDevice => 6
  | .notADirectory => 20
  | .isADirectory => 21
  | .noSpaceLeft => 28
  | .nameTooLong => 36

def SystemFault.text : SystemFault → String
  | .noSuchEntry => "No such file or directory"
  | .noSuchDevice => "No such device or address"
  | .notADirectory => "Not a directory"
  | .isADirectory => "Is a directory"
  | .noSpaceLeft => "No space left on device"
  | .nameTooLong => "File name too long"

/-- Why an operation on a file failed. -/
inductive Fault where
  | pathNotFound (path : String)
  | invalidEncoding
  /-- A path holds the null character, which no system call can pass on. -/
  | nullInPath
  | system (fault : SystemFault)
  /-- The medium's own report. -/
  | reported (kind : FaultClass) (text : String)
  deriving DecidableEq, Repr

def Fault.message : Fault → String
  | .pathNotFound path => "path not found: " ++ path
  | .invalidEncoding => "stream did not contain valid UTF-8"
  | .nullInPath => "file name contained an unexpected NUL byte"
  | .system fault => fault.text ++ " (os error " ++ toString fault.code ++ ")"
  | .reported _ text => text

end SourceSplice
