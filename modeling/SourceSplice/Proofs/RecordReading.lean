import Mathlib.Tactic
import SourceSplice.Record.Reader
/-!
# Records are read back

A record is written without control characters, so it stands in one line. Every part of it is read
back from its written form, whatever is written behind it: an escape stands for one character, a
string ends at the first quote that is not escaped, and a number ends where its digits do. So a line
that was written for a record is read as that record.
-/

namespace SourceSplice.Proofs
open Record

section Characters

/-- There is no control character here, that is, no character below U+0020. The line feed and the
carriage return are two of these. -/
def NoControls (s : List Char) : Prop :=
  ∀ c ∈ s, 0x20 ≤ c.toNat

instance (s : List Char) : Decidable (NoControls s) :=
  List.decidableBAll (fun c : Char => 0x20 ≤ c.toNat) s

@[simp] lemma noControls_cons {c : Char} {s : List Char} :
    NoControls (c :: s) ↔ 0x20 ≤ c.toNat ∧ NoControls s :=
  List.forall_mem_cons

@[simp] lemma noControls_append {s t : List Char} :
    NoControls (s ++ t) ↔ NoControls s ∧ NoControls t :=
  List.forall_mem_append

lemma noControls_escapeChar (c : Char) : NoControls (escapeChar c) := by
  have hdigit : ∀ k < 16, 0x20 ≤ (Nat.digitChar k).toNat := by decide
  unfold escapeChar
  split
  case h_8 =>
    split
    · rename_i hlow
      have hhigh := hdigit (c.toNat / 16) (by omega)
      have hrest := hdigit (c.toNat % 16) (by omega)
      simp only [noControls_cons]
      exact ⟨by decide, by decide, by decide, by decide, hhigh, hrest, by decide⟩
    · rename_i hlow
      exact noControls_cons.mpr ⟨Nat.le_of_not_lt hlow, by decide⟩
  -- the escapes that are written with a letter or with the character itself
  all_goals decide

lemma noControls_renderString (s : String) : NoControls (renderString s) := by
  have hescaped : NoControls (s.toList.flatMap escapeChar) := by
    intro c hc
    obtain ⟨x, -, hx⟩ := List.mem_flatMap.mp hc
    exact noControls_escapeChar x c hx
  rw [renderString, List.cons_append, noControls_cons, noControls_append]
  exact ⟨by decide, hescaped, by decide⟩

lemma noControls_renderValue (v : Value) : NoControls v.render := by
  cases v with
  | null => decide
  | number n =>
    intro c hc
    have hdigit := Nat.isDigit_of_mem_toDigits (by decide) (by decide) hc
    have hlow : 48 ≤ c.toNat := (Char.isDigit_iff_toNat.mp hdigit).1
    omega
  | text s => exact noControls_renderString s

lemma noControls_renderFields (fs : List (String × Value)) : NoControls (renderFields fs) := by
  have hfield : ∀ f, NoControls (renderField f) := by
    intro f
    rw [renderField, noControls_append, noControls_cons]
    exact ⟨noControls_renderString f.1, by decide, noControls_renderValue f.2⟩
  fun_induction renderFields fs with
  | case1 => exact List.forall_mem_nil _
  | case2 f => exact hfield f
  | case3 f g fs ih =>
    rw [noControls_append, noControls_cons]
    exact ⟨hfield f, by decide, ih⟩

lemma noControls_render (r : Record) : NoControls r.render.toList := by
  rw [render, String.toList_ofList, chars, List.cons_append, noControls_cons, noControls_append]
  exact ⟨by decide, noControls_renderFields r, by decide⟩

lemma NoControls.lineFeed_not_mem {s : List Char} (h : NoControls s) : '\n' ∉ s :=
  fun hmem => absurd (h _ hmem) (by decide)

end Characters

section Strings

lemma hexValue?_digitChar : ∀ k < 16, hexValue? (Nat.digitChar k) = some k := by
  decide

lemma codeChar?_of_lt {c : Char} (h : c.toNat < 0x20) :
    codeChar? '0' '0' (Nat.digitChar (c.toNat / 16)) (Nat.digitChar (c.toNat % 16)) = some c := by
  have hzero : hexValue? '0' = some 0 := rfl
  have hhigh := hexValue?_digitChar (c.toNat / 16) (by omega)
  have hlow := hexValue?_digitChar (c.toNat % 16) (by omega)
  have hcode : ((0 * 16 + 0) * 16 + c.toNat / 16) * 16 + c.toNat % 16 = c.toNat := by omega
  have hvalid : c.toNat.isValidChar := c.valid
  simp only [codeChar?, hzero, hhigh, hlow, Option.bind_eq_bind, Option.bind_some, hcode,
    if_pos hvalid, Char.ofNat_toNat]

lemma readStringTail?_letter {letter c : Char} (h : letterChar? letter = some c)
    (rest : List Char) :
    readStringTail? ('\\' :: letter :: rest) = (readStringTail? rest).map (consChar c) := by
  have hne : letter ≠ 'u' := by
    rintro rfl
    cases h
  rw [readStringTail?, h]
  · cases readStringTail? rest <;> rfl
  · intro _ _ _ _ _ hu
    exact absurd hu hne

lemma readStringTail?_code {a b c d x : Char} (h : codeChar? a b c d = some x)
    (rest : List Char) :
    readStringTail? ('\\' :: 'u' :: a :: b :: c :: d :: rest) =
      (readStringTail? rest).map (consChar x) := by
  rw [readStringTail?, h]
  cases readStringTail? rest <;> rfl

lemma readStringTail?_plain {c : Char} (hquote : c ≠ '"') (hbackslash : c ≠ '\\')
    (hlow : ¬c.toNat < 0x20) (rest : List Char) :
    readStringTail? (c :: rest) = (readStringTail? rest).map (consChar c) := by
  rw [readStringTail?, if_neg (not_or.mpr ⟨hbackslash, hlow⟩)]
  · exact hquote
  · intro _ _ _ _ _ h
    exact absurd h hbackslash
  · intro _ _ h
    exact absurd h hbackslash

lemma readStringTail?_escapeChar (c : Char) (rest : List Char) :
    readStringTail? (escapeChar c ++ rest) = (readStringTail? rest).map (consChar c) := by
  unfold escapeChar
  split
  · exact readStringTail?_letter rfl rest
  · exact readStringTail?_letter rfl rest
  · exact readStringTail?_letter rfl rest
  · exact readStringTail?_letter rfl rest
  · exact readStringTail?_letter rfl rest
  · exact readStringTail?_letter rfl rest
  · exact readStringTail?_letter rfl rest
  · rename_i hquote hbackslash _ _ _ _ _
    split
    · rename_i hlow
      exact readStringTail?_code (codeChar?_of_lt hlow) rest
    · rename_i hlow
      exact readStringTail?_plain hquote hbackslash hlow rest

lemma readStringTail?_flatMap (cs rest : List Char) :
    readStringTail? (cs.flatMap escapeChar ++ '"' :: rest) = some (cs, rest) := by
  induction cs with
  | nil => rfl
  | cons c cs ih =>
    rw [List.flatMap_cons, List.append_assoc, readStringTail?_escapeChar, ih]
    rfl

lemma readString?_renderString (s : String) (rest : List Char) :
    readString? (renderString s ++ rest) = some (s, rest) := by
  have hrender : renderString s ++ rest = '"' :: (s.toList.flatMap escapeChar ++ '"' :: rest) := by
    rw [renderString, List.append_assoc]
    rfl
  rw [hrender, readString?, readStringTail?_flatMap, Option.map_some, String.ofList_toList]

end Strings

section Values

/-- A number that is followed by this ends in front of it. -/
def EndsNumber (rest : List Char) : Prop :=
  ∀ c, rest.head? = some c → c.isDigit = false

lemma takeWhile_toDigits (n : Nat) {rest : List Char} (h : EndsNumber rest) :
    (Nat.toDigits 10 n ++ rest).takeWhile Char.isDigit = Nat.toDigits 10 n ∧
      (Nat.toDigits 10 n ++ rest).dropWhile Char.isDigit = rest := by
  have hdigits : ∀ c ∈ Nat.toDigits 10 n, c.isDigit = true := fun c hc =>
    Nat.isDigit_of_mem_toDigits (by decide) (by decide) hc
  have hrest : rest.takeWhile Char.isDigit = [] ∧ rest.dropWhile Char.isDigit = rest := by
    cases rest with
    | nil => exact ⟨rfl, rfl⟩
    | cons c rest =>
      have hc := h c rfl
      exact ⟨List.takeWhile_cons_of_neg (Bool.not_eq_true _ ▸ hc),
        List.dropWhile_cons_of_neg (Bool.not_eq_true _ ▸ hc)⟩
  rw [List.takeWhile_append_of_pos hdigits, List.dropWhile_append_of_pos hdigits, hrest.1, hrest.2,
    List.append_nil]
  exact ⟨rfl, rfl⟩

lemma readValue?_number (n : Nat) {rest : List Char} (h : EndsNumber rest) :
    readValue? (Nat.toDigits 10 n ++ rest) = some (.number n, rest) := by
  obtain ⟨htake, hdrop⟩ := takeWhile_toDigits n h
  obtain ⟨c, digits, hcons⟩ := List.exists_cons_of_ne_nil (Nat.toDigits_ne_nil (n := n) (b := 10))
  have hc : c.isDigit = true :=
    Nat.isDigit_of_mem_toDigits (by decide) (by decide) (hcons ▸ List.mem_cons_self)
  have hvalue := Nat.ofDigitChars_ten_toDigits (n := n)
  rw [hcons] at htake hdrop hvalue ⊢
  rw [List.cons_append] at htake hdrop ⊢
  rw [readValue?, if_pos hc]
  · simp only [htake, hdrop, hvalue]
  · rintro _ rfl
    cases hc
  · rintro rfl
    cases hc

lemma readValue?_render (v : Value) {rest : List Char} (h : EndsNumber rest) :
    readValue? (v.render ++ rest) = some (v, rest) := by
  cases v with
  | null => rfl
  | number n => exact readValue?_number n h
  | text s =>
    have hstring := readString?_renderString s rest
    simp only [Value.render]
    rw [renderString, List.append_assoc, List.cons_append] at hstring ⊢
    rw [readValue?, hstring]
    rfl

lemma readField?_renderField (f : String × Value) {rest : List Char} (h : EndsNumber rest) :
    readField? (renderField f ++ rest) = some (f, rest) := by
  rw [renderField, List.append_assoc, readField?, readString?_renderString, List.cons_append]
  simp only [readValue?_render f.2 h, Option.map_some]

end Values

section Fields

lemma readFields?_renderFields {fs : List (String × Value)} (hfs : fs ≠ []) {limit : Nat}
    (hlimit : fs.length ≤ limit) (rest : List Char) :
    readFields? limit (renderFields fs ++ '\x7d' :: rest) = some (fs, rest) := by
  have hcomma : ∀ s, EndsNumber (',' :: s) := by
    rintro s _ ⟨rfl⟩
    rfl
  have hbrace : EndsNumber ('\x7d' :: rest) := by
    rintro _ ⟨rfl⟩
    rfl
  induction limit generalizing fs with
  | zero => exact absurd (List.length_eq_zero_iff.mp (Nat.le_zero.mp hlimit)) hfs
  | succ limit ih =>
    match fs, hfs with
    | [f], _ =>
      rw [renderFields, readFields?, readField?_renderField f hbrace]
      rfl
    | f :: g :: fs, _ =>
      rw [renderFields, List.append_assoc, List.cons_append, readFields?,
        readField?_renderField f (hcomma _)]
      simp only [ih (List.cons_ne_nil g fs) (Nat.le_of_succ_le_succ hlimit), Option.map_some]

lemma length_le_renderFields (fs : List (String × Value)) :
    fs.length ≤ (renderFields fs).length := by
  fun_induction renderFields fs with
  | case1 => exact le_rfl
  | case2 f =>
    rw [renderField, List.length_append, List.length_cons]
    exact Nat.le_add_left 1 _
  | case3 f g fs ih =>
    simp only [List.length_append, List.length_cons] at ih ⊢
    omega

theorem read?_render (r : Record) : read? r.render = some r := by
  rw [read?, render, String.toList_ofList, chars]
  cases r with
  | nil => rfl
  | cons f fs =>
    have hlength := length_le_renderFields (f :: fs)
    have hlimit : (f :: fs).length ≤ (renderFields (f :: fs) ++ ['\x7d']).length := by
      rw [List.length_append]
      exact hlength.trans (Nat.le_add_right _ _)
    have hread := readFields?_renderFields (List.cons_ne_nil f fs) hlimit []
    rw [List.cons_append, ofChars?]
    · rw [hread]
    · intro hempty
      have hfirst : renderFields (f :: fs) ++ ['\x7d'] = ['\x7d'] := hempty
      rw [List.append_left_eq_self] at hfirst
      rw [hfirst] at hlength
      cases hlength

lemma render_injective : Function.Injective render := by
  intro r r' h
  have hread := congrArg read? h
  rw [read?_render, read?_render] at hread
  exact Option.some.inj hread

end Fields

end SourceSplice.Proofs
