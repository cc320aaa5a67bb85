import SourceSplice.Event
/-!
# Replaying events

What the events of a scan alone tell about the files that it is in the middle of. A change to the
file below the current one is taken for a return to it, any other change for an entry.

A file that includes the one it was entered from makes the two look alike. The number of files that
are open behind each event tells them apart in every case.
-/

namespace SourceSplice

/-- A file that a scan is in the middle of, as its events tell. -/
structure Activation where
  path : String
  /-- The number of lines that it gave itself. -/
  lines : Nat := 0
  /-- The number of files that were entered from it. -/
  children : Nat := 0
  deriving DecidableEq, Repr

namespace Activation

/-- The number of its lines that are behind the scan. -/
def linesRead (a : Activation) : Nat :=
  a.lines + a.children

/-- The activations after a change to a file, the current one first. -/
def change (path : String) : List Activation → List Activation
  | [] => [{ path }]
  | [top] => [{ path }, { top with children := top.children + 1 }]
  | top :: parent :: below =>
    if parent.path = path then parent :: below
    else { path } :: { top with children := top.children + 1 } :: parent :: below

/-- The activations after one more event. -/
def replay (stack : List Activation) : Event → List Activation
  | .fileChange path => change path stack
  | .line _ _ =>
    match stack with
    | [] => []
    | top :: below => { top with lines := top.lines + 1 } :: below

def replayAll (events : List Event) : List Activation :=
  events.foldl replay []

/-- The activations after a file was entered from the current one. -/
def enter (path : String) : List Activation → List Activation
  | [] => [{ path }]
  | top :: below => { path } :: { top with children := top.children + 1 } :: below

/-- The activations after one more event, behind which so many files are open. -/
def follow (depth : Nat) (stack : List Activation) : Event → List Activation
  | .fileChange path => if stack.length < depth then enter path stack else stack.tail
  | .line text number => replay stack (.line text number)

end Activation

end SourceSplice
