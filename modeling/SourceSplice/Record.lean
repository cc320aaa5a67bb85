/-!
# Flat records

A record is one JSON object on one line whose fields hold a text, a natural number or nothing at
all. Events and error reports are written as records. Fields keep the order in which they are
given and no blank is written between tokens.

Inside a string the quote, the backslash and the control characters below U+0020 are escaped;
every other character is copied, so a rendered record never holds a line feed.
-/

namespace SourceSplice

namespace Record

/-- What a field of a record holds. -/
inductive Value where
  | null
  | number (n : Nat)
  | text (s : String)
  deriving DecidableEq, Repr

/-- One character inside a string of a record. The control characters below U+0020 that have no
letter of their own are written with four hexadecimal digits. -/
def escapeChar (c : Char) : List Char :=
  match c with
  | '"' => ['\\', '"']
  | '\\' => ['\\', '\\']
  | '\x08' => ['\\', 'b']
  | '\t' => ['\\', 't']
  | '\n' => ['\\', 'n']
  | '\x0c' => ['\\', 'f']
  | '\r' => ['\\', 'r']
  | c =>
    if c.toNat < 0x20 then
      ['\\', 'u', '0', '0', Nat.digitChar (c.toNat / 16), Nat.digitChar (c.toNat % 16)]
    else [c]

/-- A string of a record, with its quotes. -/
def renderString (s : String) : List Char :=
  '"' :: s.toList.flatMap escapeChar ++ ['"']

def Value.render : Value → List Char
  | .null => ['n', 'u', 'l', 'l']
  | .number n => Nat.toDigits 10 n
  | .text s => renderString s

/-- A field: its name, a colon and its value. -/
def renderField (f : String × Value) : List Char :=
  renderString f.1 ++ ':' :: f.2.render

/-- Fields separated by commas. -/
def renderFields : List (String × Value) → List Char
  | [] => []
  | [f] => renderField f
  | f :: g :: fs => renderField f ++ ',' :: renderFields (g :: fs)

end Record

/-- The fields of a record with their names, in the order in which they are written. -/
abbrev Record := List (String × Record.Value)

namespace Record

def chars (r : Record) : List Char :=
  '\x7b' :: renderFields r ++ ['\x7d']

/-- A record as a line of text, without a line feed at its end. -/
def render (r : Record) : String :=
  String.ofList r.chars

example : render [("a", .text "x\"\n\x1f"), ("b", .null), ("c", .number 12)] =
    "\x7b\"a\":\"x\\\"\\n\\u001f\",\"b\":null,\"c\":12\x7d" := by decide +kernel

end Record

end SourceSplice
