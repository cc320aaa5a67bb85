import SourceSplice.RunError
/-!
# Source excerpts

How a terminal shows an error: its message, and the source line at fault between two bars with a
caret under it.
-/

namespace SourceSplice

def spaces (n : Nat) : String :=
  String.ofList (List.replicate n ' ')

/-- The number of bytes that the leading blanks of a text take up. -/
def indentWidth (text : String) : Nat :=
  (String.ofList (Text.indentation text.toList)).utf8ByteSize

/-- A source line in three lines: an empty one, the text after its number, and a caret. The bars
stand in one column, and the caret is set off by as many columns as the indentation has bytes. -/
def excerpt (line : Nat) (text : String) : String :=
  let number := toString line
  let gutter := spaces number.length
  gutter ++ " |\n" ++ number ++ " | " ++ text ++ "\n" ++ gutter ++ " | "
    ++ spaces (indentWidth text) ++ "^\n"

/-- The widest blank that can be written. -/
def maxBlank : Nat := 65535

/-- The text with which writing an excerpt breaks off, if its caret is set off too far. -/
def excerptFailure (text : String) : Option String :=
  if maxBlank < indentWidth text then some "Formatting argument out of range" else none

/-- An error on a terminal: its message, and the source line at fault if there is one. -/
def RunError.terminal (e : RunError) : String :=
  "error: " ++ e.message ++ "\n" ++
    match e.line?, e.sourceText? with
    | some line, some text => excerpt line text
    | _, _ => ""

/-- The text with which writing an error out breaks off: it has no report, or its excerpt cannot be
written. -/
def RunError.writingFailure (e : RunError) : Option String :=
  match e.tryReport with
  | .error text => some text
  | .ok r => if r.line.isSome then r.sourceText.bind excerptFailure else none

example : excerpt 12 "  #x" = "   |\n12 |   #x\n   |   ^\n" := by decide +kernel

end SourceSplice
