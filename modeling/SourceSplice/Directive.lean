import SourceSplice.Text.Blank
/-!
# Preprocessor directives

What a single source line asks for. A line whose first character that is not blank is `#` is a
directive; the only directive is `#include "path"`. Every other line is plain source text.

`Directive.parse` reads a line, and `DirectiveError` names the three ways in which it can be
malformed.
-/

namespace SourceSplice

/-- What a source line asks for. -/
inductive Directive where
  /-- Ordinary source text. -/
  | plain
  /-- The text of another file in place of this line. -/
  | inclusion (path : String)
  deriving DecidableEq, Repr

/-- Why a line that starts like a directive is none. -/
inductive DirectiveError where
  /-- The first word is not the name of a directive. -/
  | unknown (word : String)
  /-- There is no path, or the path between the quotes is empty. -/
  | emptyPath
  /-- What follows the name is not a path between two quotes. -/
  | unquotedPath (rest : String)
  deriving DecidableEq, Repr

def DirectiveError.message : DirectiveError → String
  | .unknown word => "invalid preprocessor directive: " ++ word
  | .emptyPath => "empty include path"
  | .unquotedPath rest =>
    "invalid include path: " ++ rest ++ " (remember to wrap it in '\"')"

namespace Directive

open Text

/-- The name of the include directive, with its leading mark. -/
def keyword : List Char :=
  "#include".toList

/-- What follows the keyword at the start of a text, if the keyword ends there: at the end of
the text or before a blank. -/
def afterKeyword? (text : List Char) : Option (List Char) :=
  if keyword.isPrefixOf text then
    match text.drop keyword.length with
    | [] => some []
    | c :: rest => if isBlank c then some (c :: rest) else none
  else none

/-- What stands between two double quotes that enclose a text, if nothing else does and there is
no third quote. The two quotes are distinct characters of the text. -/
def unquote? : List Char → Option (List Char)
  | '"' :: rest =>
    if rest.getLast? = some '"' ∧ '"' ∉ rest.dropLast then some rest.dropLast else none
  | _ => none

/-- The path that the trimmed text after the keyword names. -/
def parsePath (rest : List Char) : Except DirectiveError Directive :=
  if rest = [] then .error .emptyPath
  else
    match unquote? rest with
    | none => .error (.unquotedPath (String.ofList rest))
    | some [] => .error .emptyPath
    | some path => .ok (.inclusion (String.ofList path))

/-- What the characters of a line ask for. -/
def parseChars (line : List Char) : Except DirectiveError Directive :=
  let text := trim line
  if text.head? = some '#' then
    match afterKeyword? text with
    | some rest => parsePath (trim rest)
    | none => .error (.unknown (String.ofList (firstWord text)))
  else .ok .plain

/-- What a line asks for. Blanks around the directive and between its two parts do not count;
blanks between the quotes belong to the path. -/
def parse (line : String) : Except DirectiveError Directive :=
  parseChars line.toList

example : parse "  #include\t\" a\" " = .ok (.inclusion " a") := by cbv
example : parse "x #include \"a\"" = .ok .plain := by cbv
example : parse "#include\"a\"" = .error (.unknown "#include\"a\"") := by cbv
example : parse "#include \"" = .error (.unquotedPath "\"") := by cbv
example : parse "#include \"\"" = .error .emptyPath := by cbv

end Directive

end SourceSplice
