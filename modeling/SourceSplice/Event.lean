import SourceSplice.Record
/-!
# Scan events

A scan turns a tree of source files into one sequence of events: the scan enters a file or comes
back to it, and it meets a plain line of the current file. This module gives the two written
forms of an event, for people and as a record.
-/

namespace SourceSplice

/-- What a scan reports about the source text. -/
inductive Event where
  /-- A line of source text with its number in its file, without its line terminator. -/
  | line (text : String) (number : Nat)
  /-- The scan enters this file or returns to it. -/
  | fileChange (path : String)
  deriving DecidableEq, Repr

namespace Event

/-- The text of a line or the path of a file. -/
def text : Event → String
  | .line text _ => text
  | .fileChange path => path

/-- The number of a line; a change of file has number zero. -/
def lineNumber : Event → Nat
  | .line _ number => number
  | .fileChange _ => 0

def sourceLine? : Event → Option String
  | .line text _ => some text
  | .fileChange _ => none

def changedFile? : Event → Option String
  | .line _ _ => none
  | .fileChange path => some path

def kind : Event → String
  | .line _ _ => "line"
  | .fileChange _ => "file_change"

/-- The listing form: a line after its number, which is set flush right in four columns, or the
path of a file after a mark. -/
def display : Event → String
  | .line text number =>
    let digits := toString number
    String.ofList (List.replicate (4 - digits.length) ' ') ++ digits ++ " | " ++ text
  | .fileChange path => "# file " ++ path

def record (e : Event) : Record :=
  ("kind", .text e.kind) ::
    match e with
    | .line text number => [("text", .text text), ("lineno", .number number)]
    | .fileChange path => [("path", .text path)]

/-- An event as one line of an event log. -/
def json (e : Event) : String :=
  e.record.render

/-- The event that a record describes. -/
def ofRecord? : Record → Option Event
  | [("kind", .text "line"), ("text", .text text), ("lineno", .number number)] =>
    some (.line text number)
  | [("kind", .text "file_change"), ("path", .text path)] => some (.fileChange path)
  | _ => none

theorem ofRecord?_record (e : Event) : ofRecord? e.record = some e := by
  cases e <;> rfl

end Event

end SourceSplice
