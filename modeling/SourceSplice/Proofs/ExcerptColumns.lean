import Mathlib.Tactic
import SourceSplice.Excerpt
/-!
# The columns of an excerpt

An excerpt has three lines with a bar in the same column, and a caret under the text of the middle
one. The caret is set off by the bytes of the blanks before the first visible character, while the
character itself stands behind as many columns as there are blanks. So the caret points at it only
if every one of these blanks is a single byte.
-/

namespace SourceSplice.Proofs
open Text (isBlank indentation)

/-- The number of characters before the first one that is not blank. -/
def firstVisible (text : String) : Nat :=
  text.toList.findIdx fun c => !isBlank c

/-- How an excerpt is laid out in three lines. -/
structure LaidOut (out text : String) (first second third : List Char) (bar start caret : Nat) :
    Prop where
  lines : out.toList.splitOn '\n' = [first, second, third, []]
  bars : ∀ line ∈ [first, second, third], line.idxOf? '|' = some bar
  /-- The second line ends in the text. -/
  text : second.drop start = text.toList
  text_behind : bar < start
  marked : third.idxOf? '^' = some caret
  mark_behind : bar < caret
  blanks : ∀ i, bar < i → i < caret → third[i]? = some ' '

lemma LaidOut.columns_eq {out text : String} {first second third first' second' third' : List Char}
    {bar start caret bar' start' caret' : Nat} (hne : text.toList ≠ [])
    (h : LaidOut out text first second third bar start caret)
    (h' : LaidOut out text first' second' third' bar' start' caret') :
    start = start' ∧ caret = caret' := by
  have hlines := h.lines.symm.trans h'.lines
  simp only [List.cons.injEq, and_true] at hlines
  obtain ⟨-, rfl, rfl⟩ := hlines
  have hlength := congrArg List.length h.text
  have hlength' := congrArg List.length h'.text
  have hpos := List.length_pos_iff.mpr hne
  rw [List.length_drop] at hlength hlength'
  exact ⟨by omega, Option.some.inj (h.marked.symm.trans h'.marked)⟩

section Widths

lemma utf8ByteSize_ofList (s : List Char) :
    (String.ofList s).utf8ByteSize = (s.map Char.utf8Size).sum := by
  induction s with
  | nil => rfl
  | cons c s ih =>
    have hsplit : String.ofList (c :: s) = String.singleton c ++ String.ofList s := by
      rw [String.singleton_eq_ofList, ← String.ofList_append, List.singleton_append]
    rw [hsplit, String.utf8ByteSize_append, String.utf8ByteSize_singleton, ih, List.map_cons,
      List.sum_cons]

lemma length_le_sum_utf8Size (s : List Char) : s.length ≤ (s.map Char.utf8Size).sum := by
  induction s with
  | nil => exact Nat.zero_le _
  | cons c s ih =>
    have hpos := c.utf8Size_pos
    rw [List.map_cons, List.sum_cons, List.length_cons]
    omega

lemma sum_utf8Size_eq_length_iff (s : List Char) :
    (s.map Char.utf8Size).sum = s.length ↔ ∀ c ∈ s, c.utf8Size = 1 := by
  induction s with
  | nil => exact iff_of_true rfl nofun
  | cons c s ih =>
    have hpos := c.utf8Size_pos
    have hle := length_le_sum_utf8Size s
    rw [List.map_cons, List.sum_cons, List.length_cons, List.forall_mem_cons, ← ih]
    omega

lemma indentWidth_eq (text : String) :
    indentWidth text = ((indentation text.toList).map Char.utf8Size).sum :=
  utf8ByteSize_ofList _

lemma length_indentation (text : String) :
    (indentation text.toList).length = firstVisible text := by
  rw [indentation, List.takeWhile_eq_take_findIdx_not, List.length_take]
  exact min_eq_left List.findIdx_le_length

lemma firstVisible_le_indentWidth (text : String) : firstVisible text ≤ indentWidth text := by
  rw [indentWidth_eq, ← length_indentation]
  exact length_le_sum_utf8Size _

lemma indentWidth_eq_firstVisible_iff (text : String) :
    indentWidth text = firstVisible text ↔ ∀ c ∈ indentation text.toList, c.utf8Size = 1 := by
  rw [indentWidth_eq, ← length_indentation]
  exact sum_utf8Size_eq_length_iff _

end Widths

section Lines

lemma idxOf?_append_cons {s : List Char} {c : Char} (h : c ∉ s) (rest : List Char) :
    (s ++ c :: rest).idxOf? c = some s.length := by
  rw [List.idxOf?_eq_some_iff]
  refine ⟨by simp, by simp, fun j hj => ?_⟩
  rw [List.getElem_append_left hj]
  exact fun hc => h (hc ▸ List.getElem_mem hj)

lemma notMem_number (line : Nat) {c : Char} (h : c.isDigit = false) :
    c ∉ (toString line).toList := by
  intro hmem
  have hdigit : c ∈ Nat.toDigits 10 line := by simpa using hmem
  rw [Nat.isDigit_of_mem_toDigits (by decide) (by decide) hdigit] at h
  cases h

/-- The margin in front of the bars, as wide as the number of the line. -/
def margin (line : Nat) : List Char :=
  List.replicate (toString line).length ' '

def emptyLine (line : Nat) : List Char :=
  margin line ++ [' ', '|']

def textLine (line : Nat) (text : String) : List Char :=
  (toString line).toList ++ [' ', '|', ' '] ++ text.toList

def caretLine (line : Nat) (text : String) : List Char :=
  margin line ++ [' ', '|', ' '] ++ List.replicate (indentWidth text) ' ' ++ ['^']

variable {text : String}

lemma toList_excerpt (line : Nat) (text : String) : (excerpt line text).toList = emptyLine line ++ '\n' ::
    (textLine line text ++ '\n' :: (caretLine line text ++ '\n' :: [])) := by
  simp [excerpt, spaces, emptyLine, textLine, caretLine, margin]

lemma notMem_margin (line : Nat) {c : Char} (h : c ≠ ' ') : c ∉ margin line :=
  fun hmem => h (List.eq_of_mem_replicate hmem)

lemma splitOn_excerpt (line : Nat) (h : '\n' ∉ text.toList) : (excerpt line text).toList.splitOn '\n' =
    [emptyLine line, textLine line text, caretLine line text, []] := by
  have hempty : '\n' ∉ emptyLine line := by
    simp [emptyLine, notMem_margin]
  have htext : '\n' ∉ textLine line text := by
    have hnumber := notMem_number line (c := '\n') (by decide)
    simp only [textLine, List.mem_append, not_or]
    exact ⟨⟨hnumber, by decide⟩, h⟩
  have hcaret : '\n' ∉ caretLine line text := by
    simp [caretLine, notMem_margin]
  rw [toList_excerpt, List.splitOn_append_cons_self_of_not_mem hempty,
    List.splitOn_append_cons_self_of_not_mem htext,
    List.splitOn_append_cons_self_of_not_mem hcaret]
  rfl

/-- The column of the bars. -/
def barColumn (line : Nat) : Nat :=
  (toString line).length + 1

lemma idxOf?_bar {line : Nat} {pad : List Char} (hlength : pad.length = (toString line).length)
    (hbar : '|' ∉ pad) (rest : List Char) :
    (pad ++ ' ' :: '|' :: rest).idxOf? '|' = some (barColumn line) := by
  have hpad : '|' ∉ pad ++ [' '] := by
    simp [hbar]
  have hidx := idxOf?_append_cons hpad rest
  rwa [List.append_assoc, List.length_append, hlength] at hidx

lemma laidOut_excerpt (line : Nat) (h : '\n' ∉ text.toList) :
    LaidOut (excerpt line text) text (emptyLine line) (textLine line text) (caretLine line text)
      (barColumn line) (barColumn line + 2) (barColumn line + 2 + indentWidth text) := by
  have hmargin : (margin line).length = (toString line).length := List.length_replicate
  have hnumber : (toString line).toList.length = (toString line).length := String.length_toList
  have hbar : '|' ∉ margin line := notMem_margin line (by decide)
  refine ⟨splitOn_excerpt line h, ?_, ?_, by omega, ?_, by omega, fun i hi hlt => ?_⟩
  · simp only [List.forall_mem_cons, List.not_mem_nil, false_imp_iff, implies_true, and_true]
    refine ⟨idxOf?_bar hmargin hbar [], ?_, ?_⟩
    · rw [textLine, List.append_assoc]
      exact idxOf?_bar hnumber (notMem_number line (by decide)) _
    · rw [caretLine, List.append_assoc, List.append_assoc]
      exact idxOf?_bar hmargin hbar _
  · have hlength : ((toString line).toList ++ [' ', '|', ' ']).length = barColumn line + 2 := by
      rw [List.length_append, hnumber]
      rfl
    rw [textLine, ← hlength, List.drop_left]
  · have hblank : '^' ∉ margin line ++ [' ', '|', ' '] ++ List.replicate (indentWidth text) ' ' := by
      simp [notMem_margin]
    have hlength : (margin line ++ [' ', '|', ' '] ++
        List.replicate (indentWidth text) ' ').length = barColumn line + 2 + indentWidth text := by
      simp only [List.length_append, List.length_replicate, hmargin]
      rfl
    rw [caretLine, idxOf?_append_cons hblank, hlength]
  · -- behind the bar there are the blank that sets the text off and those of the indentation
    have hsplit : caretLine line text = (margin line ++ [' ', '|']) ++
        (List.replicate (indentWidth text + 1) ' ' ++ ['^']) := by
      simp [caretLine, List.replicate_succ]
    have hlength : (margin line ++ [' ', '|']).length = barColumn line + 1 := by
      simp [hmargin, barColumn]
    rw [hsplit, List.getElem?_append_right (by omega), hlength,
      List.getElem?_append_left (by rw [List.length_replicate]; omega),
      List.getElem?_replicate, if_pos (by omega)]

lemma excerptFailure_eq_none_iff (text : String) : excerptFailure text = none ↔
    ((indentation text.toList).map Char.utf8Size).sum ≤ maxBlank := by
  rw [← indentWidth_eq, excerptFailure]
  split <;> simp <;> omega

lemma exists_visible (hword : ∃ c ∈ text.toList, isBlank c = false) :
    ∃ c, isBlank c = false ∧ text.toList[firstVisible text]? = some c := by
  obtain ⟨c, hc, hvisible⟩ := hword
  have hlt : firstVisible text < text.toList.length :=
    List.findIdx_lt_length_of_exists ⟨c, hc, by simp [hvisible]⟩
  have hfound : (!isBlank text.toList[firstVisible text]) = true :=
    List.findIdx_getElem (p := fun c => !isBlank c)
  exact ⟨_, by simpa using hfound, List.getElem?_eq_getElem hlt⟩

end Lines

/-- An excerpt is written unless its caret is set off too far. It has three lines, with their bars in
one column, and the second one ends in the text. The caret never stands before the first visible
character of the text, and it stands under it if and only if every blank in front of it is a single
byte. -/
theorem caret_under_first_iff (line : Nat) (text : String) (hline : '\n' ∉ text.toList)
    (hword : ∃ c ∈ text.toList, isBlank c = false) :
    (excerptFailure text = none ↔
        ((indentation text.toList).map Char.utf8Size).sum ≤ maxBlank) ∧
      ∃ first second third bar start caret,
        LaidOut (excerpt line text) text first second third bar start caret ∧
          (∃ c, isBlank c = false ∧ second[start + firstVisible text]? = some c) ∧
          start + firstVisible text ≤ caret ∧
          (caret = start + firstVisible text ↔
            ∀ c ∈ indentation text.toList, c.utf8Size = 1) := by
  obtain ⟨c, hvisible, hget⟩ := exists_visible hword
  have hlaid := laidOut_excerpt line hline
  refine ⟨excerptFailure_eq_none_iff text, _, _, _, _, _, _, hlaid, ⟨c, hvisible, ?_⟩, ?_, ?_⟩
  · rw [← List.getElem?_drop, hlaid.text, hget]
  · have hle := firstVisible_le_indentWidth text
    omega
  · rw [← indentWidth_eq_firstVisible_iff]
    omega

/-- Behind a tab and a blank, which are single bytes, the caret points at the mark. -/
theorem caret_under_first_iff_indented :
    '\n' ∉ "\t #x".toList ∧ (∃ c ∈ "\t #x".toList, isBlank c = false) ∧
      excerptFailure "\t #x" = none ∧
        ∃ first second third bar start caret,
          LaidOut (excerpt 12 "\t #x") "\t #x" first second third bar start caret ∧
            second[start + 2]? = some '#' ∧ caret = start + 2 := by
  have hline : '\n' ∉ "\t #x".toList := by decide
  have hword : ∃ c ∈ "\t #x".toList, isBlank c = false := ⟨'#', by decide, by decide⟩
  have hindent : indentation "\t #x".toList = ['\t', ' '] := by decide
  have hbytes : ∀ c ∈ indentation "\t #x".toList, c.utf8Size = 1 := by
    rw [hindent, List.forall_mem_cons, List.forall_mem_singleton]
    decide
  obtain ⟨hwritten, first, second, third, bar, start, caret, hlaid, -, -, hunder⟩ :=
    caret_under_first_iff 12 "\t #x" hline hword
  refine ⟨hline, hword, hwritten.mpr (by decide), first, second, third, bar, start, caret, hlaid,
    ?_, hunder.mpr hbytes⟩
  rw [← List.getElem?_drop, hlaid.text]
  rfl

/-- Behind an ideographic space, which is one character of three bytes, the caret misses. -/
theorem caret_misses_wide_blank :
    ¬∃ first second third bar start caret,
      LaidOut (excerpt 7 "\u3000#x") "\u3000#x" first second third bar start caret ∧
        caret = start + firstVisible "\u3000#x" := by
  rintro ⟨first, second, third, bar, start, caret, hlaid, hcaret⟩
  obtain ⟨rfl, rfl⟩ := hlaid.columns_eq (by decide) (laidOut_excerpt 7 (by decide))
  have hmissed : firstVisible "\u3000#x" = 1 ∧ indentWidth "\u3000#x" = 3 := by decide
  omega

end SourceSplice.Proofs
