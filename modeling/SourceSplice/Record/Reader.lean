import SourceSplice.Record
/-!
# Reading records back

`Record.read?` accepts the JSON objects that `Record.render` can write: flat, without blanks
between tokens. Each part returns the value that it read together with the rest of the input.
-/

namespace SourceSplice.Record

/-- The value of a hexadecimal digit. -/
def hexValue? (c : Char) : Option Nat :=
  if c.isDigit then some (c.toNat - '0'.toNat)
  else if 'a' ≤ c ∧ c ≤ 'f' then some (c.toNat - 'a'.toNat + 10)
  else if 'A' ≤ c ∧ c ≤ 'F' then some (c.toNat - 'A'.toNat + 10)
  else none

/-- The character with the code that four hexadecimal digits spell, unless it is a surrogate. -/
def codeChar? (a b c d : Char) : Option Char := do
  let n := (((← hexValue? a) * 16 + (← hexValue? b)) * 16 + (← hexValue? c)) * 16 + (← hexValue? d)
  if n.isValidChar then some (Char.ofNat n) else none

/-- The character that a one-letter escape stands for. -/
def letterChar? : Char → Option Char
  | '"' => some '"'
  | '\\' => some '\\'
  | '/' => some '/'
  | 'b' => some '\x08'
  | 't' => some '\t'
  | 'n' => some '\n'
  | 'f' => some '\x0c'
  | 'r' => some '\r'
  | _ => none

/-- Puts a character in front of the text that was read after it. -/
def consChar (c : Char) (r : List Char × List Char) : List Char × List Char :=
  (c :: r.1, r.2)

/-- Reads the characters of a string up to its closing quote. -/
def readStringTail? : List Char → Option (List Char × List Char)
  | [] => none
  | '"' :: rest => some ([], rest)
  | '\\' :: 'u' :: a :: b :: c :: d :: rest => do
    return consChar (← codeChar? a b c d) (← readStringTail? rest)
  | '\\' :: c :: rest => do
    return consChar (← letterChar? c) (← readStringTail? rest)
  | c :: rest =>
    if c = '\\' ∨ c.toNat < 0x20 then none else (readStringTail? rest).map (consChar c)

/-- Reads a string with its quotes. -/
def readString? : List Char → Option (String × List Char)
  | '"' :: rest => (readStringTail? rest).map fun r => (String.ofList r.1, r.2)
  | _ => none

/-- Reads a value. A number extends over all the digits that follow. -/
def readValue? : List Char → Option (Value × List Char)
  | 'n' :: 'u' :: 'l' :: 'l' :: rest => some (.null, rest)
  | '"' :: rest => (readString? ('"' :: rest)).map fun r => (.text r.1, r.2)
  | c :: rest =>
    if c.isDigit then
      let digits := (c :: rest).takeWhile Char.isDigit
      some (.number (Nat.ofDigitChars 10 digits 0), (c :: rest).dropWhile Char.isDigit)
    else none
  | [] => none

/-- Reads a field: its name, a colon and its value. -/
def readField? (s : List Char) : Option ((String × Value) × List Char) :=
  match readString? s with
  | some (name, ':' :: rest) => (readValue? rest).map fun r => ((name, r.1), r.2)
  | _ => none

/-- Reads fields separated by commas, at most as many as `limit`, up to the closing brace. -/
def readFields? : (limit : Nat) → List Char → Option (Record × List Char)
  | 0, _ => none
  | limit + 1, s =>
    match readField? s with
    | some (f, '\x7d' :: rest) => some ([f], rest)
    | some (f, ',' :: rest) => (readFields? limit rest).map fun r => (f :: r.1, r.2)
    | _ => none

/-- Reads a record that takes up the whole input. -/
def ofChars? : List Char → Option Record
  | ['\x7b', '\x7d'] => some []
  | '\x7b' :: s =>
    match readFields? s.length s with
    | some (r, []) => some r
    | _ => none
  | _ => none

/-- Reads a record that takes up a whole line. -/
def read? (line : String) : Option Record :=
  ofChars? line.toList

end SourceSplice.Record
