import SourceSplice.Text.Printable
/-!
# Quoted text

The form in which a diagnostic quotes a name: between double quotes, with the quote and the
backslash escaped, the four common control characters under their letters, and every other
character that is not printable by its number. A single quote stands as it is.
-/

namespace SourceSplice.Text

/-- The digits of a code point in base sixteen, in lower case and without leading zeros. -/
def hexDigits (n : Nat) : List Char :=
  Nat.toDigits 16 n

/-- One character inside a quoted text. -/
def quoteChar : Char → List Char
  | '\x00' => ['\\', '0']
  | '\t' => ['\\', 't']
  | '\n' => ['\\', 'n']
  | '\r' => ['\\', 'r']
  | '"' => ['\\', '"']
  | '\\' => ['\\', '\\']
  | c =>
    if isPrintable c then [c]
    else ['\\', 'u', '\x7b'] ++ hexDigits c.toNat ++ ['\x7d']

/-- A text between double quotes, escaped. -/
def quoted (s : String) : String :=
  String.ofList ('"' :: s.toList.flatMap quoteChar ++ ['"'])

example : quoted "a\x00b" = "\"a\\0b\"" := by decide +kernel

example : quoted "it's \"d\\e\"\u200b" = "\"it's \\\"d\\\\e\\\"\\u\x7b200b\x7d\"" := by
  decide +kernel

end SourceSplice.Text
