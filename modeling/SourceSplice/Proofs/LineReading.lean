import SourceSplice.Proofs.TapOutput
import SourceSplice.Reader
/-!
# Lines and their bytes

A line feed is one byte of its own in UTF-8, and no other character has that byte. So no line that is
read has a line feed in it, and texts that have none, and that do not end in a carriage return, are read
back as they were written.
-/

namespace SourceSplice.Proofs

section Encoding

lemma utf8Bytes_ofList (l : List Char) :
    utf8Bytes (String.ofList l) = l.flatMap String.utf8EncodeChar := by
  rw [utf8Bytes_eq, String.toByteArray_ofList, List.utf8Encode, List.toList_data_toByteArray]

lemma lineFeed_ne_ofNat {n : Nat} (hlow : 0x80 ≤ n) (hhigh : n < 0x100) :
    lineFeed ≠ UInt8.ofNat n := by
  intro h
  have hn : 10 = n % 0x100 := congrArg UInt8.toNat h
  omega

lemma lineFeed_mem_utf8EncodeChar {c : Char} (h : lineFeed ∈ String.utf8EncodeChar c) : c = '\n' := by
  unfold String.utf8EncodeChar at h
  simp only at h
  split at h
  · rename_i hascii
    have hn : 10 = c.val.toNat % 0x100 := congrArg UInt8.toNat (List.mem_singleton.mp h)
    have hval : c.val.toNat = 10 := by omega
    exact Char.ext (UInt32.toNat_inj.mp hval)
  · exfalso
    split at h
    · simp only [List.mem_cons, List.not_mem_nil, or_false] at h
      rcases h with h | h <;> exact lineFeed_ne_ofNat (by omega) (by omega) h
    · split at h
      · simp only [List.mem_cons, List.not_mem_nil, or_false] at h
        rcases h with h | h | h <;> exact lineFeed_ne_ofNat (by omega) (by omega) h
      · simp only [List.mem_cons, List.not_mem_nil, or_false] at h
        rcases h with h | h | h | h <;> exact lineFeed_ne_ofNat (by omega) (by omega) h

lemma lineFeed_not_mem_utf8Bytes {s : String} (h : '\n' ∉ s.toList) : lineFeed ∉ utf8Bytes s := by
  intro hmem
  rw [← String.ofList_toList (s := s), utf8Bytes_ofList] at hmem
  obtain ⟨c, hc, hbyte⟩ := List.mem_flatMap.mp hmem
  rw [lineFeed_mem_utf8EncodeChar hbyte] at hc
  exact h hc

lemma utf8Bytes_eq_nil {s : String} (h : utf8Bytes s = []) : s.toList = [] := by
  rw [← String.ofList_toList (s := s), utf8Bytes_ofList, List.flatMap_eq_nil_iff] at h
  exact List.eq_nil_iff_forall_not_mem.mpr fun c hc => String.utf8EncodeChar_ne_nil (h c hc)

lemma fromUTF8?_eq_some_iff {b : List UInt8} {s : String} :
    String.fromUTF8? ⟨b.toArray⟩ = some s ↔ utf8Bytes s = b := by
  rw [utf8Bytes_eq, String.fromUTF8?]
  constructor
  · intro h
    split at h
    · cases h
      rfl
    · cases h
  · intro h
    have hb : s.toByteArray = ⟨b.toArray⟩ := by
      rw [← h]
    rw [dif_pos (hb ▸ s.isValidUTF8)]
    congr 1
    exact String.toByteArray_inj.mp hb.symm

end Encoding

section Terminator

open Reader

lemma stripTerminator_concat {l : List Char} (h : l.getLast? ≠ some '\r') :
    stripTerminator (l ++ ['\n']) = l := by
  have hreverse : (l ++ ['\n']).reverse = '\n' :: l.reverse := List.reverse_concat
  unfold stripTerminator
  split
  · rename_i r hr
    rw [hreverse] at hr
    refine absurd ?_ h
    rw [← List.head?_reverse, (List.cons.inj hr).2, List.head?_cons]
  · rename_i r _ hr
    rw [hreverse] at hr
    rw [← (List.cons.inj hr).2, List.reverse_reverse]
  · rename_i _ hr
    exact absurd hreverse (hr _)

lemma stripTerminator_cases (l : List Char) :
    l = stripTerminator l ++ ['\r', '\n'] ∨
      (l = stripTerminator l ++ ['\n'] ∧ (stripTerminator l).getLast? ≠ some '\r') ∨
        (stripTerminator l = l ∧ l.getLast? ≠ some '\n') := by
  unfold stripTerminator
  split
  · rename_i r hr
    left
    rw [← List.reverse_reverse l, hr, List.reverse_cons, List.reverse_cons, List.append_assoc]
    rfl
  · rename_i r hreturn hr
    refine .inr (.inl ⟨?_, ?_⟩)
    · rw [← List.reverse_reverse l, hr, List.reverse_cons]
    · rw [List.getLast?_reverse]
      intro hhead
      obtain ⟨r', rfl⟩ := List.head?_eq_some_iff.mp hhead
      exact hreturn r' rfl
  · rename_i _ hr
    refine .inr (.inr ⟨rfl, ?_⟩)
    intro hlast
    rw [← List.head?_reverse] at hlast
    obtain ⟨r, hr'⟩ := List.head?_eq_some_iff.mp hlast
    exact hr r hr'

lemma exists_terminator (l : List Char) :
    ∃ terminator, l = stripTerminator l ++ terminator ∧
      (terminator = [] → l.getLast? ≠ some '\n') := by
  rcases stripTerminator_cases l with h | ⟨h, -⟩ | ⟨h, hlast⟩
  · exact ⟨['\r', '\n'], h, nofun⟩
  · exact ⟨['\n'], h, nofun⟩
  · refine ⟨[], ?_, fun _ => hlast⟩
    rw [h, List.append_nil]

end Terminator

section Lines

open Reader

/-- Of the bytes of a line only the last one can be a line feed. -/
def OneLine (b : List UInt8) : Prop :=
  lineFeed ∉ b.dropLast

lemma oneLine_append {before more : List UInt8} (hbefore : lineFeed ∉ before) (hmore : OneLine more) :
    OneLine (before ++ more) := by
  unfold OneLine at hmore ⊢
  by_cases hnil : more = []
  · rw [hnil, List.append_nil]
    exact fun hmem => hbefore (List.mem_of_mem_dropLast hmem)
  · rw [List.dropLast_append_of_ne_nil hnil, List.mem_append, not_or]
    exact ⟨hbefore, hmore⟩

lemma lineFeed_not_mem_takeWhile (b : List UInt8) : lineFeed ∉ b.takeWhile (· != lineFeed) := by
  intro hmem
  have hne := List.all_eq_true.mp List.all_takeWhile _ hmem
  simp only [bne_self_eq_false, Bool.false_eq_true] at hne

lemma oneLine_cutLine (ds : List Delivery) : OneLine (Delivery.cutLine ds).1 := by
  fun_induction Delivery.cutLine ds with
  | case1 => exact List.not_mem_nil
  | case2 ds ih => exact ih
  | case3 b ds before x after hdrop =>
    exact oneLine_append (lineFeed_not_mem_takeWhile b) List.not_mem_nil
  | case4 b ds before hdrop more found rest hcut ih =>
    rw [hcut] at ih
    exact oneLine_append (lineFeed_not_mem_takeWhile b) ih

lemma lineFeed_not_mem_of_decodeLine {b : List UInt8} {text : String} (hb : OneLine b)
    (h : decodeLine b = .ok text) : '\n' ∉ text.toList := by
  unfold decodeLine at h
  split at h
  · rename_i s hs
    cases h
    rw [String.toList_ofList]
    intro hmem
    obtain ⟨l₁, l₂, hstrip⟩ := List.mem_iff_append.mp hmem
    obtain ⟨terminator, hterminator, hlast⟩ := exists_terminator s.toList
    have hs' : s.toList = l₁ ++ '\n' :: (l₂ ++ terminator) := by
      rw [hterminator, hstrip, List.append_assoc, List.cons_append]
    by_cases hrest : l₂ ++ terminator = []
    · rw [hrest] at hs'
      refine hlast (List.append_eq_nil_iff.mp hrest).2 ?_
      rw [hs', List.getLast?_concat]
    · -- something follows the line feed, so that it is not the last byte
      have hbytes : b = utf8Bytes (String.ofList l₁) ++
          lineFeed :: utf8Bytes (String.ofList (l₂ ++ terminator)) := by
        rw [← fromUTF8?_eq_some_iff.mp hs, ← String.ofList_toList (s := s), hs', utf8Bytes_ofList,
          utf8Bytes_ofList, utf8Bytes_ofList, List.flatMap_append, List.flatMap_cons]
        rfl
      have hne : utf8Bytes (String.ofList (l₂ ++ terminator)) ≠ [] := by
        intro hnil
        have hempty := utf8Bytes_eq_nil hnil
        rw [String.toList_ofList] at hempty
        exact hrest hempty
      apply hb
      rw [hbytes, List.dropLast_append_of_ne_nil (List.cons_ne_nil _ _),
        List.dropLast_cons_of_ne_nil hne]
      exact List.mem_append_right _ List.mem_cons_self
  · cases h

lemma deliver_fst (b : List UInt8) (rest : Reader) : (deliver b rest).1 = some (decodeLine b) := by
  unfold deliver
  cases decodeLine b <;> rfl

lemma next_of_some {r rest : Reader} {x : Except Fault String} (h : r.next = (some x, rest)) :
    x = decodeLine (Delivery.cutLine r.deliveries).1 ∨ ∃ fault, x = .error fault := by
  have hx : r.next.1 = some x := congrArg Prod.fst h
  unfold next at hx
  simp only at hx
  split at hx
  · rw [deliver_fst] at hx
    exact .inl (Option.some.inj hx).symm
  · split at hx
    · rename_i fault _
      exact .inr ⟨fault, (Option.some.inj hx).symm⟩
    · split at hx
      · cases hx
      · rw [deliver_fst] at hx
        exact .inl (Option.some.inj hx).symm

lemma lineFeed_not_mem_of_mem_outcomes {r : Reader} {text : String} (h : .ok text ∈ r.outcomes) :
    '\n' ∉ text.toList := by
  induction r using outcomes.induct with
  | case1 r last _ hnext =>
    rw [outcomes_of_next_none hnext] at h
    cases h
  | case2 r x rest _ hnext _ ih =>
    rw [outcomes_of_next_some hnext, List.mem_cons] at h
    rcases h with rfl | h
    · rcases next_of_some hnext with hline | ⟨fault, hfault⟩
      · exact lineFeed_not_mem_of_decodeLine (oneLine_cutLine r.deliveries) hline.symm
      · cases hfault
    · exact ih h

lemma cutLine_line {line : List UInt8} (hline : lineFeed ∉ line) (rest : List UInt8) :
    Delivery.cutLine [.bytes (line ++ lineFeed :: rest)] =
      (line ++ [lineFeed], true, [.bytes rest]) := by
  have hpos : ∀ b ∈ line, (b != lineFeed) = true := by
    intro b hb
    rw [bne_iff_ne]
    rintro rfl
    exact hline hb
  have htake : (line ++ lineFeed :: rest).takeWhile (· != lineFeed) = line := by
    rw [List.takeWhile_append_of_pos hpos]
    exact List.append_nil line
  have hdrop : (line ++ lineFeed :: rest).dropWhile (· != lineFeed) = lineFeed :: rest := by
    rw [List.dropWhile_append_of_pos hpos]
    rfl
  simp only [Delivery.cutLine, htake, hdrop]

lemma next_line {line : List UInt8} (hline : lineFeed ∉ line) (rest : List UInt8) :
    (ofBytes (line ++ lineFeed :: rest)).next = deliver (line ++ [lineFeed]) (ofBytes rest) := by
  unfold next ofBytes
  simp only [cutLine_line hline, if_true]

lemma decodeLine_text {text : String} (h : text.toList.getLast? ≠ some '\r') :
    decodeLine (utf8Bytes text ++ [lineFeed]) = .ok text := by
  have hbytes : utf8Bytes (text ++ "\n") = utf8Bytes text ++ [lineFeed] := by
    rw [utf8Bytes_append, utf8Bytes_lineFeed]
    rfl
  have hlist : (text ++ "\n").toList = text.toList ++ ['\n'] := String.toList_append
  rw [decodeLine, fromUTF8?_eq_some_iff.mpr hbytes]
  simp only [hlist, stripTerminator_concat h, String.ofList_toList]

lemma outcomes_asLines (texts : List String)
    (h : ∀ text ∈ texts, '\n' ∉ text.toList ∧ text.toList.getLast? ≠ some '\r') :
    (ofBytes (utf8Bytes (asLines texts))).outcomes = texts.map .ok := by
  induction texts with
  | nil =>
    rw [asLines, utf8Bytes_eq]
    exact outcomes_of_next_none rfl
  | cons text texts ih =>
    obtain ⟨⟨hfeed, hreturn⟩, htexts⟩ := List.forall_mem_cons.mp h
    have hbytes : utf8Bytes (asLines (text :: texts)) =
        utf8Bytes text ++ lineFeed :: utf8Bytes (asLines texts) := by
      rw [asLines, utf8Bytes_append, utf8Bytes_append, utf8Bytes_lineFeed, List.append_assoc]
      rfl
    have hnext : (ofBytes (utf8Bytes (asLines (text :: texts)))).next =
        (some (.ok text), ofBytes (utf8Bytes (asLines texts))) := by
      rw [hbytes, next_line (lineFeed_not_mem_utf8Bytes hfeed), deliver, decodeLine_text hreturn]
    rw [outcomes_of_next_some hnext, ih htexts, List.map_cons]

end Lines

end SourceSplice.Proofs
