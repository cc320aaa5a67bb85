import SourceSplice.Directive
/-!
# The grammar of directives

Which lines mean what, said by their parts: blanks, the keyword, the quotes and what is between
them. Every line has exactly one meaning.
-/

namespace SourceSplice.Directive

open Text

/-- A text of blanks only. -/
def Blank (w : List Char) : Prop :=
  ∀ c ∈ w, isBlank c = true

/-- A text that neither starts nor ends with a blank. -/
def Tight (s : List Char) : Prop :=
  (∀ c, s.head? = some c → isBlank c = false) ∧ ∀ c, s.getLast? = some c → isBlank c = false

/-- A path between double quotes. -/
def quote (path : List Char) : List Char :=
  '"' :: path ++ ['"']

/-- What the characters of a line mean. -/
inductive Means : List Char → Except DirectiveError Directive → Prop where
  /-- A blank line is plain. -/
  | blank {w : List Char} : Blank w → Means w (.ok .plain)
  /-- A line whose first character that is not blank is no mark is plain. -/
  | plain {w : List Char} {c : Char} {r : List Char} :
    Blank w → isBlank c = false → c ≠ '#' → Means (w ++ c :: r) (.ok .plain)
  | inclusion {w₁ w₂ path w₃ : List Char} :
    Blank w₁ → Blank w₂ → w₂ ≠ [] → path ≠ [] → '"' ∉ path → Blank w₃ →
      Means (w₁ ++ keyword ++ w₂ ++ quote path ++ w₃) (.ok (.inclusion (String.ofList path)))
  /-- Nothing follows the keyword. -/
  | noPath {w₁ w₂ : List Char} :
    Blank w₁ → Blank w₂ → Means (w₁ ++ keyword ++ w₂) (.error .emptyPath)
  /-- Nothing stands between the quotes. -/
  | emptyPath {w₁ w₂ w₃ : List Char} :
    Blank w₁ → Blank w₂ → w₂ ≠ [] → Blank w₃ →
      Means (w₁ ++ keyword ++ w₂ ++ quote [] ++ w₃) (.error .emptyPath)
  /-- Something other than a quoted path follows the keyword. -/
  | unquotedPath {w₁ w₂ rest w₃ : List Char} :
    Blank w₁ → Blank w₂ → w₂ ≠ [] → rest ≠ [] → Tight rest → Blank w₃ →
      (∀ path, '"' ∉ path → rest ≠ quote path) →
      Means (w₁ ++ keyword ++ w₂ ++ rest ++ w₃) (.error (.unquotedPath (String.ofList rest)))
  /-- The first word starts with the mark and is not the keyword. -/
  | unknown {w word r : List Char} :
    Blank w → (∀ c ∈ word, isBlank c = false) → word.head? = some '#' → word ≠ keyword →
      (∀ c, r.head? = some c → isBlank c = true) →
      Means (w ++ word ++ r) (.error (.unknown (String.ofList word)))

end SourceSplice.Directive
