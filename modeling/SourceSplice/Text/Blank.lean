/-!
# Blank characters

Which characters count as blank, and the three cuts that use them: trimming both ends of a
text, finding where its indentation ends, and taking its first word. A character is blank when
it has the Unicode property `White_Space`; that set is larger than `Char.isWhitespace`
(`isBlank_of_isWhitespace`) and leaves out the zero-width space and the byte order mark.
-/

namespace SourceSplice.Text

/-- The code points with the Unicode property `White_Space`, as inclusive ranges. -/
def blankRanges : List (Nat × Nat) :=
  [(0x09, 0x0D), (0x20, 0x20), (0x85, 0x85), (0xA0, 0xA0), (0x1680, 0x1680), (0x2000, 0x200A),
    (0x2028, 0x2029), (0x202F, 0x202F), (0x205F, 0x205F), (0x3000, 0x3000)]

/-- A blank character is one with the Unicode property `White_Space`. -/
def isBlank (c : Char) : Bool :=
  blankRanges.any fun r => r.1 ≤ c.toNat && c.toNat ≤ r.2

theorem isBlank_of_isWhitespace {c : Char} (h : c.isWhitespace = true) : isBlank c = true := by
  simp only [Char.isWhitespace, Bool.or_eq_true, decide_eq_true_eq] at h
  rcases h with ((rfl | rfl) | rfl) | rfl <;> decide

/-- A text without its leading blanks. -/
def trimStart (s : List Char) : List Char :=
  s.dropWhile isBlank

/-- A text without its trailing blanks. -/
def trimEnd (s : List Char) : List Char :=
  (s.reverse.dropWhile isBlank).reverse

/-- A text without its leading and trailing blanks. -/
def trim (s : List Char) : List Char :=
  trimEnd (trimStart s)

/-- The leading blanks of a text. -/
def indentation (s : List Char) : List Char :=
  s.takeWhile isBlank

/-- The characters of a text before its first blank. -/
def firstWord (s : List Char) : List Char :=
  s.takeWhile fun c => !isBlank c

@[simp] theorem indentation_append_trimStart (s : List Char) :
    indentation s ++ trimStart s = s :=
  List.takeWhile_append_dropWhile

theorem isBlank_of_mem_indentation {s : List Char} {c : Char} (h : c ∈ indentation s) :
    isBlank c = true := by
  induction s with
  | nil => simp [indentation] at h
  | cons d s ih =>
    by_cases hd : isBlank d = true
    · simp only [indentation, List.takeWhile_cons, hd, if_true, List.mem_cons] at h ih
      rcases h with rfl | h
      · exact hd
      · exact ih h
    · simp [indentation, hd] at h

end SourceSplice.Text
