import Mathlib.Data.List.DropRight
import Mathlib.Tactic
import SourceSplice.Directive.Grammar
/-!
# Directives are read by their grammar

Reading a line finds the one meaning that its parts give it. So each of the five answers stands for a
class of lines that can be told by looking at them, and the classes leave no line out.
-/

namespace SourceSplice.Directive

open Text

/-- What is left of a line without the blanks around it. -/
def TrimsTo (line text : List Char) : Prop :=
  ∃ w₁ w₂, Blank w₁ ∧ Tight text ∧ Blank w₂ ∧ line = w₁ ++ text ++ w₂

/-- A word is over where a blank follows, or nothing. -/
def EndsWord (after : List Char) : Prop :=
  ∀ c, after.head? = some c → isBlank c = true

/-- The first word of a text that does not start with a blank. -/
def FirstWord (text word : List Char) : Prop :=
  ∃ after, text = word ++ after ∧ (∀ c ∈ word, isBlank c = false) ∧ EndsWord after

def IncludesPath (line path : List Char) : Prop :=
  ∃ w₁ w₂ w₃, Blank w₁ ∧ Blank w₂ ∧ w₂ ≠ [] ∧ Blank w₃ ∧ path ≠ [] ∧ '"' ∉ path ∧
    line = w₁ ++ keyword ++ w₂ ++ quote path ++ w₃

def IncludesNothing (line : List Char) : Prop :=
  TrimsTo line keyword ∨
    ∃ w, Blank w ∧ w ≠ [] ∧ TrimsTo line (keyword ++ w ++ quote [])

/-- A line starts like a directive, but its first word is not the keyword. -/
def StartsUnknown (line word : List Char) : Prop :=
  ∃ text, TrimsTo line text ∧ text.head? = some '#' ∧
    (¬∃ after, text = keyword ++ after ∧ EndsWord after) ∧ FirstWord text word

/-- The five answers to a line, and the lines that get each of them. -/
structure FollowsGrammar (line : String) : Prop where
  inclusion : ∀ path, parse line = .ok (.inclusion path) ↔ IncludesPath line.toList path.toList
  path_unique : ∀ path path', IncludesPath line.toList path → IncludesPath line.toList path' →
    path = path'
  plain : parse line = .ok .plain ↔ line.toList.find? (fun c => !isBlank c) ≠ some '#'
  emptyPath : parse line = .error .emptyPath ↔ IncludesNothing line.toList
  unknown : ∀ word, parse line = .error (.unknown word) ↔ StartsUnknown line.toList word.toList
  /-- All other lines. -/
  unquotedPath_iff : (∃ rest, parse line = .error (.unquotedPath rest)) ↔
    (¬∃ path, IncludesPath line.toList path) ∧ line.toList.find? (fun c => !isBlank c) = some '#' ∧
      ¬IncludesNothing line.toList ∧ ¬∃ word, StartsUnknown line.toList word
  unquotedPath : ∀ rest, parse line = .error (.unquotedPath rest) →
    ∃ after, TrimsTo line.toList (keyword ++ after) ∧ TrimsTo after rest.toList

end SourceSplice.Directive

namespace SourceSplice.Proofs
open Directive Text

variable {line text word rest path w : List Char} {d : Except DirectiveError Directive}

section Trimming

lemma trimStart_append (hw : Blank w) (htext : ∀ c, text.head? = some c → isBlank c = false) :
    trimStart (w ++ text) = text := by
  rw [trimStart, List.dropWhile_append_of_pos hw]
  cases text with
  | nil => rfl
  | cons c text => simp [htext c rfl]

lemma trimEnd_append (htext : ∀ c, text.getLast? = some c → isBlank c = false) (hw : Blank w) :
    trimEnd (text ++ w) = text := by
  have hw' : Blank w.reverse := fun c hc => hw c (List.mem_reverse.mp hc)
  have hreverse : trimStart (w.reverse ++ text.reverse) = text.reverse := by
    apply trimStart_append hw'
    rwa [List.head?_reverse]
  rw [trimEnd, List.reverse_append, ← trimStart, hreverse, List.reverse_reverse]

lemma trimEnd_of_blank (hw : Blank w) : trimEnd w = [] := by
  have hnil : trimEnd ([] ++ w) = [] := trimEnd_append nofun hw
  exact hnil

lemma exists_trimEnd (text : List Char) : ∃ w, Blank w ∧ text = trimEnd text ++ w := by
  refine ⟨text.rtakeWhile isBlank, fun c hc => List.mem_rtakeWhile_imp hc, ?_⟩
  exact List.rdropWhile_append_rtakeWhile.symm

lemma getLast?_trimEnd {c : Char} (h : (trimEnd text).getLast? = some c) : isBlank c = false := by
  have hne : text.rdropWhile isBlank ≠ [] := by
    intro hnil
    have hnone : (trimEnd text).getLast? = none := List.getLast?_eq_none_iff.mpr hnil
    cases hnone.symm.trans h
  have hlast := List.rdropWhile_last_not isBlank text hne
  have hc : (text.rdropWhile isBlank).getLast hne = c :=
    Option.some.inj ((List.getLast?_eq_some_getLast hne).symm.trans h)
  rw [hc] at hlast
  exact eq_false_of_ne_true hlast

lemma tight_append {r : List Char} (hne : text ≠ [])
    (hhead : ∀ c, text.head? = some c → isBlank c = false)
    (hlast : ∀ c, (text ++ r).getLast? = some c → isBlank c = false) : Tight (text ++ r) := by
  refine ⟨?_, hlast⟩
  intro c hc
  rw [List.head?_append_of_ne_nil _ hne] at hc
  exact hhead c hc

lemma trim_append (hw : Blank w) (hne : text ≠ []) (htext : Tight text) (r : List Char) :
    trim (w ++ text ++ r) = text ++ trimEnd r := by
  obtain ⟨w', hw', hr⟩ := exists_trimEnd r
  have htight : Tight (text ++ trimEnd r) := by
    apply tight_append hne htext.1
    intro c hc
    by_cases hnil : trimEnd r = []
    · rw [hnil, List.append_nil] at hc
      exact htext.2 c hc
    · rw [List.getLast?_append_of_ne_nil _ hnil] at hc
      exact getLast?_trimEnd hc
  have hstart : trimStart (w ++ (text ++ r)) = text ++ r := by
    apply trimStart_append hw
    intro c hc
    rw [List.head?_append_of_ne_nil _ hne] at hc
    exact htext.1 c hc
  rw [trim, List.append_assoc, hstart]
  nth_rewrite 1 [hr]
  rw [← List.append_assoc]
  exact trimEnd_append htight.2 hw'

lemma trim_of_blank (hw : Blank w) : trim w = [] := by
  have hstart : trimStart w = [] := by
    rw [← List.append_nil w]
    exact trimStart_append hw nofun
  rw [trim, hstart]
  rfl

lemma trimsTo_trim (line : List Char) : TrimsTo line (trim line) := by
  obtain ⟨w, hw, hend⟩ := exists_trimEnd (trimStart line)
  refine ⟨indentation line, w, fun c hc => isBlank_of_mem_indentation hc, ⟨?_, ?_⟩, hw, ?_⟩
  · intro c hc
    have hne : trimStart line ≠ [] := by
      intro hnil
      rw [trim, hnil] at hc
      cases hc
    have hhead := List.head_dropWhile_not isBlank hne
    have hfirst : (trimStart line).head? = some c := by
      rw [hend]
      exact (List.head?_append_of_ne_nil _ (List.ne_nil_of_mem (List.mem_of_mem_head? hc))).trans hc
    rw [List.head?_eq_some_head hne, Option.some.injEq] at hfirst
    rwa [← hfirst]
  · exact fun c hc => getLast?_trimEnd hc
  · rw [List.append_assoc, trim, ← hend, indentation_append_trimStart]

lemma TrimsTo.trim_eq (h : TrimsTo line text) : trim line = text := by
  obtain ⟨w₁, w₂, hw₁, htext, hw₂, rfl⟩ := h
  by_cases hne : text = []
  · subst hne
    apply trim_of_blank
    intro c hc
    rw [List.append_nil] at hc
    exact (List.mem_append.mp hc).elim (hw₁ c) (hw₂ c)
  · rw [trim_append hw₁ hne htext, trimEnd_of_blank hw₂, List.append_nil]

lemma trimsTo_iff : TrimsTo line text ↔ trim line = text :=
  ⟨TrimsTo.trim_eq, fun h => h ▸ trimsTo_trim line⟩

lemma find?_of_blank (hw : Blank w) : w.find? (fun c => !isBlank c) = none := by
  rw [List.find?_eq_none]
  intro c hc
  simp [hw c hc]

lemma find?_eq_head?_trim (line : List Char) :
    line.find? (fun c => !isBlank c) = (trim line).head? := by
  obtain ⟨w₁, w₂, hw₁, htext, hw₂, hline⟩ := trimsTo_trim line
  nth_rewrite 1 [hline]
  rw [List.find?_append, List.find?_append, find?_of_blank hw₁, find?_of_blank hw₂, Option.none_or,
    Option.or_none]
  cases htrim : trim line with
  | nil => rfl
  | cons c r =>
    rw [htrim] at htext
    simp [htext.1 c rfl]

end Trimming

section Parts

lemma blank_append {w' : List Char} (hw : Blank w) (hw' : Blank w') : Blank (w ++ w') :=
  fun c hc => (List.mem_append.mp hc).elim (hw c) (hw' c)

lemma endsWord_of_blank (hw : Blank w) : EndsWord w :=
  fun c hc => hw c (List.mem_of_mem_head? hc)

lemma EndsWord.append (h : EndsWord rest) (hw : Blank w) : EndsWord (rest ++ w) := by
  cases rest with
  | nil => exact endsWord_of_blank hw
  | cons c rest => exact h

lemma keyword_ne_nil : keyword ≠ [] := by
  decide

lemma quote_ne_nil (path : List Char) : quote path ≠ [] :=
  List.cons_ne_nil _ _

lemma tight_of_not_blank (h : ∀ c ∈ word, isBlank c = false) : Tight word :=
  ⟨fun c hc => h c (List.mem_of_mem_head? hc), fun c hc => h c (List.mem_of_getLast? hc)⟩

lemma keyword_not_blank : ∀ c ∈ keyword, isBlank c = false := by
  have hall : keyword.all (fun c => !isBlank c) = true := by decide
  intro c hc
  have hc' := List.all_eq_true.mp hall c hc
  rwa [Bool.not_eq_true'] at hc'

lemma keyword_tight : Tight keyword :=
  tight_of_not_blank keyword_not_blank

lemma keyword_append_tight (hne : rest ≠ []) (hrest : Tight rest) (w : List Char) :
    Tight (keyword ++ (w ++ rest)) := by
  apply tight_append keyword_ne_nil keyword_tight.1
  intro c hc
  rw [← List.append_assoc, List.getLast?_append_of_ne_nil _ hne] at hc
  exact hrest.2 c hc

lemma afterKeyword?_eq_some_iff :
    afterKeyword? text = some rest ↔ text = keyword ++ rest ∧ EndsWord rest := by
  unfold afterKeyword?
  constructor
  · intro h
    split at h
    · rename_i hprefix
      obtain ⟨r, rfl⟩ := List.isPrefixOf_iff_prefix.mp hprefix
      rw [List.drop_left] at h
      cases r with
      | nil =>
        obtain rfl := Option.some.inj h
        exact ⟨rfl, nofun⟩
      | cons c r =>
        by_cases hc : isBlank c = true
        · simp only [hc, if_true, Option.some.injEq] at h
          subst h
          exact ⟨rfl, fun c' hc' => by cases hc'; exact hc⟩
        · simp [hc] at h
    · cases h
  · rintro ⟨rfl, hrest⟩
    rw [if_pos (List.isPrefixOf_iff_prefix.mpr (List.prefix_append _ _)), List.drop_left]
    cases rest with
    | nil => rfl
    | cons c r => simp [hrest c rfl]

lemma unquote?_eq_some_iff : unquote? rest = some path ↔ rest = quote path ∧ '"' ∉ path := by
  constructor
  · intro h
    unfold unquote? at h
    split at h
    · rename_i r
      split at h
      · rename_i hr
        obtain ⟨hlast, hquote⟩ := hr
        obtain rfl := Option.some.inj h
        refine ⟨?_, hquote⟩
        rw [quote, List.cons_append, List.dropLast_append_getLast? _ hlast]
      · cases h
    · cases h
  · rintro ⟨rfl, hquote⟩
    simp [quote, unquote?, hquote]

lemma firstWord_eq (h : FirstWord text word) : firstWord text = word := by
  obtain ⟨after, rfl, hword, hafter⟩ := h
  rw [firstWord, List.takeWhile_append_of_pos (by simpa using hword)]
  cases after with
  | nil => exact List.append_nil word
  | cons c after => simp [hafter c rfl]

lemma firstWord_firstWord (text : List Char) : FirstWord text (firstWord text) := by
  refine ⟨text.dropWhile fun c => !isBlank c, List.takeWhile_append_dropWhile.symm, ?_, ?_⟩
  · intro c hc
    simpa using List.mem_takeWhile_imp hc
  · intro c hc
    have hne : text.dropWhile (fun c => !isBlank c) ≠ [] :=
      List.ne_nil_of_mem (List.mem_of_mem_head? hc)
    have hhead := List.head_dropWhile_not (fun c => !isBlank c) hne
    rw [List.head?_eq_some_head hne, Option.some.injEq] at hc
    simpa [hc] using hhead

lemma EndsWord.trimEnd (h : EndsWord rest) : EndsWord (trimEnd rest) := by
  obtain ⟨w, -, hrest⟩ := exists_trimEnd rest
  intro c hc
  apply h c
  rw [hrest, List.head?_append_of_ne_nil _ (List.ne_nil_of_mem (List.mem_of_mem_head? hc)), hc]

lemma head?_firstWord {c : Char} (h : text.head? = some c) (hc : isBlank c = false) :
    (firstWord text).head? = some c := by
  cases text with
  | nil => cases h
  | cons c' text =>
    cases h
    simp [firstWord, hc]

end Parts

section Meaning

lemma means_parsePath {w₁ w₂ : List Char} (hw₁ : Blank w₁) (hrest : EndsWord rest) (hw₂ : Blank w₂) :
    Means (w₁ ++ keyword ++ rest ++ w₂) (parsePath (trim rest)) := by
  obtain ⟨before, after, hbefore, htight, hafter, hsplit⟩ := trimsTo_trim rest
  have hend : Blank (after ++ w₂) := blank_append hafter hw₂
  have hline : w₁ ++ keyword ++ rest ++ w₂ =
      w₁ ++ keyword ++ before ++ trim rest ++ (after ++ w₂) := by
    nth_rewrite 1 [hsplit]
    simp only [List.append_assoc]
  rw [hline]
  unfold parsePath
  by_cases hnil : trim rest = []
  · rw [if_pos hnil, hnil, List.append_nil, List.append_assoc]
    exact .noPath hw₁ (blank_append hbefore hend)
  · -- the path is not glued to the keyword, since it does not start with a blank
    have hgap : before ≠ [] := by
      rintro rfl
      obtain ⟨c, hc⟩ := Option.ne_none_iff_exists'.mp (mt List.head?_eq_none_iff.mp hnil)
      have hblank := hrest c (by
        rw [hsplit, List.nil_append, List.head?_append_of_ne_nil _ hnil, hc])
      exact Bool.false_ne_true ((htight.1 c hc).symm.trans hblank)
    rw [if_neg hnil]
    cases hpath : unquote? (trim rest) with
    | none =>
      refine .unquotedPath hw₁ hbefore hgap hnil htight hend ?_
      intro path hquote heq
      cases hpath.symm.trans (unquote?_eq_some_iff.mpr ⟨heq, hquote⟩)
    | some path =>
      obtain ⟨heq, hquote⟩ := unquote?_eq_some_iff.mp hpath
      rw [heq]
      cases path with
      | nil => exact .emptyPath hw₁ hbefore hgap hend
      | cons c path => exact .inclusion hw₁ hbefore hgap (List.cons_ne_nil _ _) hquote hend

lemma means_parseChars (line : List Char) : Means line (parseChars line) := by
  obtain ⟨w₁, w₂, hw₁, htight, hw₂, hline⟩ := trimsTo_trim line
  unfold parseChars
  generalize trim line = text at htight hline ⊢
  subst hline
  simp only
  split
  · rename_i hmark
    cases hafter : afterKeyword? text with
    | some rest =>
      obtain ⟨rfl, hrest⟩ := afterKeyword?_eq_some_iff.mp hafter
      rw [← List.append_assoc]
      exact means_parsePath hw₁ hrest hw₂
    | none =>
      obtain ⟨after, htext, hword, hends⟩ := firstWord_firstWord text
      have hkeyword : firstWord text ≠ keyword := by
        intro heq
        rw [heq] at htext
        cases hafter.symm.trans (afterKeyword?_eq_some_iff.mpr ⟨htext, hends⟩)
      have hunknown := Means.unknown hw₁ hword (head?_firstWord hmark rfl) hkeyword
        (EndsWord.append hends hw₂)
      rwa [List.append_assoc, ← List.append_assoc (firstWord text), ← htext,
        ← List.append_assoc] at hunknown
  · rename_i hmark
    cases text with
    | nil =>
      rw [List.append_nil]
      exact .blank (blank_append hw₁ hw₂)
    | cons c r =>
      rw [List.append_assoc, List.cons_append]
      exact .plain hw₁ (htight.1 c rfl) fun hc => hmark (congrArg some hc)

lemma parsePath_quote (hquote : '"' ∉ path) (hne : path ≠ []) :
    parsePath (quote path) = .ok (.inclusion (String.ofList path)) := by
  rw [parsePath, if_neg (quote_ne_nil path), unquote?_eq_some_iff.mpr ⟨rfl, hquote⟩]
  cases path with
  | nil => exact absurd rfl hne
  | cons c path => rfl

lemma parsePath_of_unquoted (hne : rest ≠ []) (h : ∀ path, '"' ∉ path → rest ≠ quote path) :
    parsePath rest = .error (.unquotedPath (String.ofList rest)) := by
  have hnone : unquote? rest = none := by
    cases hpath : unquote? rest with
    | none => rfl
    | some path =>
      obtain ⟨heq, hquote⟩ := unquote?_eq_some_iff.mp hpath
      exact absurd heq (h path hquote)
  rw [parsePath, if_neg hne, hnone]

lemma quote_tight (path : List Char) : Tight (quote path) := by
  constructor
  · rintro c ⟨⟩
    decide
  · intro c hc
    rw [quote, List.getLast?_concat, Option.some.injEq] at hc
    subst hc
    decide

lemma parseChars_of_trim (htrim : trim line = keyword ++ rest) (hrest : EndsWord rest) :
    parseChars line = parsePath (trim rest) := by
  have hmark : (keyword ++ rest).head? = some '#' := rfl
  rw [parseChars, htrim]
  simp only [if_pos hmark, afterKeyword?_eq_some_iff.mpr ⟨rfl, hrest⟩]

lemma parseChars_of_keyword {w₁ w₂ w₃ : List Char} (hw₁ : Blank w₁) (hw₂ : Blank w₂)
    (hgap : w₂ ≠ []) (hne : rest ≠ []) (hrest : Tight rest) (hw₃ : Blank w₃) :
    parseChars (w₁ ++ keyword ++ w₂ ++ rest ++ w₃) = parsePath rest := by
  have hlast : ∀ c, (w₂ ++ rest).getLast? = some c → isBlank c = false := by
    intro c hc
    rw [List.getLast?_append_of_ne_nil _ hne] at hc
    exact hrest.2 c hc
  have hends : EndsWord (w₂ ++ rest) := by
    intro c hc
    rw [List.head?_append_of_ne_nil _ hgap] at hc
    exact endsWord_of_blank hw₂ c hc
  have hline : w₁ ++ keyword ++ w₂ ++ rest ++ w₃ = w₁ ++ keyword ++ (w₂ ++ rest ++ w₃) := by
    simp only [List.append_assoc]
  have htrim : trim (w₁ ++ keyword ++ (w₂ ++ rest ++ w₃)) = keyword ++ (w₂ ++ rest) := by
    rw [trim_append hw₁ keyword_ne_nil keyword_tight, trimEnd_append hlast hw₃]
  have hpath : trim (w₂ ++ rest ++ []) = rest := by
    rw [trim_append hw₂ hne hrest]
    exact List.append_nil rest
  rw [hline, parseChars_of_trim htrim hends, ← List.append_nil (w₂ ++ rest), hpath]

lemma parseChars_of_unmarked (h : (trim line).head? ≠ some '#') : parseChars line = .ok .plain := by
  rw [parseChars]
  exact if_neg h

lemma parseChars_of_unknown (h : StartsUnknown line word) :
    parseChars line = .error (.unknown (String.ofList word)) := by
  obtain ⟨text, htext, hmark, hkeyword, hword⟩ := h
  have hnone : afterKeyword? text = none := by
    cases hafter : afterKeyword? text with
    | none => rfl
    | some after => exact absurd ⟨after, afterKeyword?_eq_some_iff.mp hafter⟩ hkeyword
  rw [parseChars, TrimsTo.trim_eq htext]
  simp only [if_pos hmark, hnone, firstWord_eq hword]

lemma startsUnknown_append (hw : Blank w) (hword : ∀ c ∈ word, isBlank c = false)
    (hmark : word.head? = some '#') (hkeyword : word ≠ keyword) (hrest : EndsWord rest) :
    StartsUnknown (w ++ word ++ rest) word := by
  have hne : word ≠ [] := by
    rintro rfl
    cases hmark
  have htrim := trim_append hw hne (tight_of_not_blank hword) rest
  have hfirst : FirstWord (word ++ trimEnd rest) word :=
    ⟨trimEnd rest, rfl, hword, EndsWord.trimEnd hrest⟩
  refine ⟨word ++ trimEnd rest, trimsTo_iff.mpr htrim, ?_, ?_, hfirst⟩
  · rw [List.head?_append_of_ne_nil _ hne, hmark]
  · rintro ⟨after, heq, hafter⟩
    have hfirst' : FirstWord (word ++ trimEnd rest) keyword :=
      ⟨after, heq, keyword_not_blank, hafter⟩
    exact hkeyword ((firstWord_eq hfirst).symm.trans (firstWord_eq hfirst'))

lemma parseChars_of_means (h : Means line d) : parseChars line = d := by
  cases h with
  | blank hw =>
    apply parseChars_of_unmarked
    rw [trim_of_blank hw]
    nofun
  | @plain w c r hw hc hmark =>
    apply parseChars_of_unmarked
    have htight : Tight [c] := by
      constructor <;> rintro c' ⟨⟩ <;> exact hc
    have htrim := trim_append hw (List.cons_ne_nil c []) htight r
    rw [List.append_assoc, List.singleton_append] at htrim
    rw [htrim]
    exact fun h => hmark (Option.some.inj h)
  | inclusion hw₁ hw₂ hgap hne hquote hw₃ =>
    rw [parseChars_of_keyword hw₁ hw₂ hgap (quote_ne_nil _) (quote_tight _) hw₃,
      parsePath_quote hquote hne]
  | @noPath w₁ w₂ hw₁ hw₂ =>
    have htrim := trim_append hw₁ keyword_ne_nil keyword_tight w₂
    rw [trimEnd_of_blank hw₂] at htrim
    rw [parseChars_of_trim htrim nofun]
    rfl
  | emptyPath hw₁ hw₂ hgap hw₃ =>
    rw [parseChars_of_keyword hw₁ hw₂ hgap (quote_ne_nil _) (quote_tight _) hw₃]
    rfl
  | unquotedPath hw₁ hw₂ hgap hne htight hw₃ hquote =>
    rw [parseChars_of_keyword hw₁ hw₂ hgap hne htight hw₃, parsePath_of_unquoted hne hquote]
  | unknown hw hword hmark hkeyword hends =>
    exact parseChars_of_unknown (startsUnknown_append hw hword hmark hkeyword hends)

lemma parseChars_eq_iff : parseChars line = d ↔ Means line d :=
  ⟨fun h => h ▸ means_parseChars line, parseChars_of_means⟩

end Meaning

section Classes

lemma means_inclusion_iff {path : String} :
    Means line (.ok (.inclusion path)) ↔ IncludesPath line path.toList := by
  constructor
  · intro h
    cases h with
    | inclusion hw₁ hw₂ hgap hne hquote hw₃ =>
      rw [String.toList_ofList]
      exact ⟨_, _, _, hw₁, hw₂, hgap, hw₃, hne, hquote, rfl⟩
  · rintro ⟨w₁, w₂, w₃, hw₁, hw₂, hgap, hw₃, hne, hquote, rfl⟩
    have h := Means.inclusion hw₁ hw₂ hgap hne hquote hw₃
    rwa [String.ofList_toList] at h

lemma means_plain_iff : Means line (.ok .plain) ↔ line.find? (fun c => !isBlank c) ≠ some '#' := by
  constructor
  · intro h
    cases h with
    | blank hw =>
      rw [find?_of_blank hw]
      nofun
    | plain hw hc hmark =>
      rw [List.find?_append, find?_of_blank hw, Option.none_or, List.find?_cons_of_pos (by simp [hc])]
      exact fun h => hmark (Option.some.inj h)
  · intro h
    rw [find?_eq_head?_trim] at h
    exact parseChars_eq_iff.mp (parseChars_of_unmarked h)

lemma means_emptyPath_iff : Means line (.error .emptyPath) ↔ IncludesNothing line := by
  constructor
  · intro h
    cases h with
    | noPath hw₁ hw₂ => exact .inl ⟨_, _, hw₁, keyword_tight, hw₂, rfl⟩
    | @emptyPath w₁ w₂ w₃ hw₁ hw₂ hgap hw₃ =>
      have htight := keyword_append_tight (quote_ne_nil []) (quote_tight []) w₂
      rw [← List.append_assoc] at htight
      exact .inr ⟨w₂, hw₂, hgap, w₁, w₃, hw₁, htight, hw₃, by simp only [List.append_assoc]⟩
  · rintro (⟨w₁, w₂, hw₁, -, hw₂, rfl⟩ | ⟨w, hw, hgap, w₁, w₃, hw₁, -, hw₃, rfl⟩)
    · exact .noPath hw₁ hw₂
    · have h := Means.emptyPath hw₁ hw hgap hw₃
      simpa only [List.append_assoc] using h

lemma means_unknown_iff {word : String} :
    Means line (.error (.unknown word)) ↔ StartsUnknown line word.toList := by
  constructor
  · intro h
    cases h with
    | unknown hw hword hmark hkeyword hends =>
      rw [String.toList_ofList]
      exact startsUnknown_append hw hword hmark hkeyword hends
  · intro h
    rw [← parseChars_eq_iff, parseChars_of_unknown h, String.ofList_toList]

lemma trimsTo_of_means_unquotedPath {rest : String} (h : Means line (.error (.unquotedPath rest))) :
    ∃ after, TrimsTo line (keyword ++ after) ∧ TrimsTo after rest.toList := by
  cases h with
  | @unquotedPath w₁ w₂ rest w₃ hw₁ hw₂ _ hne hrest hw₃ =>
    have htight := keyword_append_tight hne hrest w₂
    rw [String.toList_ofList]
    refine ⟨w₂ ++ rest, ⟨w₁, w₃, hw₁, htight, hw₃, by simp only [List.append_assoc]⟩, w₂, [], hw₂,
      hrest, nofun, ?_⟩
    exact (List.append_nil _).symm

/-- What a line means can be seen from the line, and it is what reading the line gives. -/
theorem parse_followsGrammar (line : String) : FollowsGrammar line := by
  have hparse : ∀ d, parse line = d ↔ Means line.toList d := fun d => parseChars_eq_iff
  have hinclusion : ∀ path, parse line = .ok (.inclusion path) ↔
      IncludesPath line.toList path.toList := fun path => (hparse _).trans means_inclusion_iff
  have hplain := (hparse _).trans means_plain_iff
  have hempty := (hparse _).trans means_emptyPath_iff
  have hunknown : ∀ word, parse line = .error (.unknown word) ↔
      StartsUnknown line.toList word.toList := fun word => (hparse _).trans means_unknown_iff
  have hinclusion' : ∀ path, IncludesPath line.toList path →
      parse line = .ok (.inclusion (String.ofList path)) := by
    intro path h
    rwa [hinclusion, String.toList_ofList]
  have hunknown' : ∀ word, StartsUnknown line.toList word →
      parse line = .error (.unknown (String.ofList word)) := by
    intro word h
    rwa [hunknown, String.toList_ofList]
  refine ⟨hinclusion, ?_, hplain, hempty, hunknown, ⟨?_, ?_⟩, ?_⟩
  · intro path path' h h'
    have heq := (hinclusion' path h).symm.trans (hinclusion' path' h')
    rw [Except.ok.injEq, Directive.inclusion.injEq] at heq
    rw [← String.toList_ofList (l := path), heq, String.toList_ofList]
  · rintro ⟨rest, hrest⟩
    refine ⟨?_, ?_, ?_, ?_⟩
    · rintro ⟨path, h⟩
      cases hrest.symm.trans (hinclusion' path h)
    · by_contra h
      cases hrest.symm.trans (hplain.mpr h)
    · intro h
      cases hrest.symm.trans (hempty.mpr h)
    · rintro ⟨word, h⟩
      cases hrest.symm.trans (hunknown' word h)
  · rintro ⟨hnoPath, hmark, hsome, hknown⟩
    cases hd : parse line with
    | ok d =>
      cases d with
      | plain => exact absurd hmark (hplain.mp hd)
      | inclusion path => exact absurd ⟨path.toList, (hinclusion path).mp hd⟩ hnoPath
    | error cause =>
      cases cause with
      | unknown word => exact absurd ⟨word.toList, (hunknown word).mp hd⟩ hknown
      | emptyPath => exact absurd (hempty.mp hd) hsome
      | unquotedPath rest => exact ⟨rest, rfl⟩
  · exact fun rest h => trimsTo_of_means_unquotedPath ((hparse _).mp h)

end Classes

end SourceSplice.Proofs
