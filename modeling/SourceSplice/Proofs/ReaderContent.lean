import SourceSplice.Proofs.LineReading
/-!
# A reader and its bytes

A reader may hand out its bytes in any pieces, and may be interrupted between them. What is read off
it depends only on the bytes that it hands out in all, and on the fault in which it ends; and each
line that is read stands in these bytes, at the place that its number says.
-/

namespace SourceSplice.Reader

/-- The bytes that a reader will hand out. -/
def content (r : Reader) : List UInt8 :=
  r.deliveries.flatMap Delivery.content

end SourceSplice.Reader

namespace SourceSplice.Proofs
open Reader

section Cutting

/-- What cutting the first line off some bytes gives: the line, whether it ends in a line feed, and
the bytes behind it. -/
inductive Cuts : List UInt8 → List UInt8 → Bool → List UInt8 → Prop where
  | line (line rest : List UInt8) :
    lineFeed ∉ line → Cuts (line ++ lineFeed :: rest) (line ++ [lineFeed]) true rest
  | last (bytes : List UInt8) : lineFeed ∉ bytes → Cuts bytes bytes false []

variable {bytes line line' rest rest' : List UInt8} {found found' : Bool}

lemma Cuts.append_left {before : List UInt8} (hbefore : lineFeed ∉ before)
    (h : Cuts bytes line found rest) : Cuts (before ++ bytes) (before ++ line) found rest := by
  cases h with
  | line line _ hline =>
    rw [← List.append_assoc, ← List.append_assoc]
    exact .line _ _ fun hmem => (List.mem_append.mp hmem).elim hbefore hline
  | last _ hbytes => exact .last _ fun hmem => (List.mem_append.mp hmem).elim hbefore hbytes

lemma Cuts.unique (h : Cuts bytes line found rest) (h' : Cuts bytes line' found' rest') :
    line = line' ∧ found = found' ∧ rest = rest' := by
  generalize hbytes : bytes = bytes' at h'
  cases h with
  | line line rest hline =>
    cases h' with
    | line line' rest' hline' =>
      have hlength := congrArg (List.idxOf lineFeed) hbytes
      rw [List.idxOf_append_of_notMem hline, List.idxOf_append_of_notMem hline',
        List.idxOf_cons_self, List.idxOf_cons_self] at hlength
      obtain ⟨rfl, hrest⟩ := List.append_inj hbytes hlength
      exact ⟨rfl, rfl, (List.cons.inj hrest).2⟩
    | last _ hlast => exact absurd (List.mem_append_right _ List.mem_cons_self) (hbytes ▸ hlast)
  | last _ hlast =>
    cases h' with
    | line => exact absurd (List.mem_append_right _ List.mem_cons_self) (hbytes ▸ hlast)
    | last => exact ⟨hbytes, rfl, rfl⟩

lemma cuts_cutLine (ds : List Delivery) :
    Cuts (ds.flatMap Delivery.content) (Delivery.cutLine ds).1 (Delivery.cutLine ds).2.1
      ((Delivery.cutLine ds).2.2.flatMap Delivery.content) := by
  fun_induction Delivery.cutLine ds with
  | case1 => exact .last [] List.not_mem_nil
  | case2 ds ih => exact ih
  | case3 b ds before x after hdrop =>
    obtain rfl : x = lineFeed := by
      have hne : b.dropWhile (· != lineFeed) ≠ [] := hdrop ▸ List.cons_ne_nil x after
      have hx := List.head_dropWhile_not (· != lineFeed) hne
      simpa only [hdrop, List.head_cons, bne_eq_false_iff_eq] using hx
    have hb : b = before ++ lineFeed :: after := by
      rw [← hdrop, List.takeWhile_append_dropWhile]
    rw [List.flatMap_cons, List.flatMap_cons, Delivery.content, hb, List.append_assoc]
    exact .line _ _ (lineFeed_not_mem_takeWhile b)
  | case4 b ds before hdrop more found rest hcut ih =>
    have hb : b = before := by
      have hsplit := List.takeWhile_append_dropWhile (p := (· != lineFeed)) (l := b)
      rw [hdrop, List.append_nil] at hsplit
      exact hsplit.symm
    rw [hcut] at ih
    rw [List.flatMap_cons, Delivery.content]
    nth_rewrite 1 [hb]
    exact ih.append_left (lineFeed_not_mem_takeWhile b)

end Cutting

section Step

/-- How a reader goes on: with a line, with the fault that breaks off what is left, with the last bytes,
or not at all. -/
inductive GoesOn (r : Reader) : Prop where
  | line (line : List UInt8) (rest : Reader) :
    lineFeed ∉ line → r.content = line ++ lineFeed :: rest.content → rest.fault = r.fault →
      r.next = deliver (line ++ [lineFeed]) rest → GoesOn r
  | breaksOff (fault : Fault) :
    lineFeed ∉ r.content → r.fault = some fault → r.next = (some (.error fault), finished) → GoesOn r
  | last :
    lineFeed ∉ r.content → r.content ≠ [] → r.fault = none → r.next = deliver r.content finished →
      GoesOn r
  | ends : r.content = [] → r.fault = none → r.next = (none, finished) → GoesOn r

lemma goesOn (r : Reader) : GoesOn r := by
  have hcut := cuts_cutLine r.deliveries
  have hnext := Reader.next.eq_1 r
  rcases hds : Delivery.cutLine r.deliveries with ⟨line, found, ds⟩
  simp only [hds] at hcut hnext
  generalize hcontent : r.deliveries.flatMap Delivery.content = bytes at hcut
  generalize hbehind : ds.flatMap Delivery.content = behind at hcut
  cases hcut with
  | line line _ hline =>
    exact .line line { r with deliveries := ds } hline (hcontent.trans (by rw [← hbehind]; rfl)) rfl
      hnext
  | last _ hline =>
    obtain rfl : r.content = line := hcontent
    simp only [Bool.false_eq_true, if_false] at hnext
    cases hfault : r.fault with
    | some fault =>
      rw [hfault] at hnext
      exact .breaksOff fault hline hfault hnext
    | none =>
      rw [hfault] at hnext
      by_cases hnil : r.content = []
      · exact .ends hnil hfault (hnext.trans (if_pos hnil))
      · exact .last hline hnil hfault (hnext.trans (if_neg hnil))

end Step

section Congruence

variable {r r' : Reader}

/-- Readers over the same bytes that end in the same way. -/
structure SameContent (r r' : Reader) : Prop where
  content : r.content = r'.content
  fault : r.fault = r'.fault

lemma SameContent.next (h : SameContent r r') :
    r.next.1 = r'.next.1 ∧ SameContent r.next.2 r'.next.2 := by
  have hcut := cuts_cutLine r.deliveries
  have hcut' := cuts_cutLine r'.deliveries
  have hbytes : r.deliveries.flatMap Delivery.content = r'.deliveries.flatMap Delivery.content :=
    h.content
  rw [hbytes] at hcut
  obtain ⟨hline, hfound, hrest⟩ := hcut.unique hcut'
  unfold Reader.next
  revert hline hfound hrest
  rcases Delivery.cutLine r.deliveries with ⟨line, found, rest⟩
  rcases Delivery.cutLine r'.deliveries with ⟨line', found', rest'⟩
  rintro rfl rfl hrest
  have hfinished : SameContent finished finished := ⟨rfl, rfl⟩
  simp only [h.fault]
  split
  · simp only [deliver]
    cases decodeLine line with
    | ok text => exact ⟨rfl, hrest, rfl⟩
    | error fault => exact ⟨rfl, hfinished⟩
  · split
    · exact ⟨rfl, hfinished⟩
    · split
      · exact ⟨rfl, hfinished⟩
      · simp only [deliver]
        cases decodeLine line <;> exact ⟨trivial, hfinished⟩

theorem SameContent.outcomes_eq (h : SameContent r r') : r.outcomes = r'.outcomes := by
  induction r using outcomes.induct generalizing r' with
  | case1 r last _ hnext =>
    obtain ⟨hfirst, -⟩ := h.next
    rw [hnext] at hfirst
    have hnext' : r'.next = (none, r'.next.2) := Prod.ext hfirst.symm rfl
    rw [outcomes_of_next_none hnext, outcomes_of_next_none hnext']
  | case2 r x rest _ hnext _ ih =>
    obtain ⟨hfirst, hrest⟩ := h.next
    rw [hnext] at hfirst hrest
    have hnext' : r'.next = (some x, r'.next.2) := Prod.ext hfirst.symm rfl
    rw [outcomes_of_next_some hnext, outcomes_of_next_some hnext', ih hrest]

end Congruence

section Places

/-- How a line of this text can end in front of these bytes: a carriage return at the end of the text
would be taken for a part of the terminator, and only the last line of all can do without one. -/
inductive Terminates (text : String) : (terminator : String) → (after : List UInt8) → Prop where
  | feed (after : List UInt8) : text.toList.getLast? ≠ some '\r' → Terminates text "\n" after
  | returnFeed (after : List UInt8) : Terminates text "\r\n" after
  | atEnd : text ≠ "" → Terminates text "" []

/-- Some bytes have a line of this text behind so many others. -/
inductive LineAt (n : Nat) (text : String) : List UInt8 → Prop where
  | intro (before after : List UInt8) (terminator : String) :
    before.count lineFeed = n → (before = [] ∨ before.getLast? = some lineFeed) →
      '\n' ∉ text.toList → Terminates text terminator after →
      LineAt n text (before ++ utf8Bytes (text ++ terminator) ++ after)

/-- What is read off a reader next, and what is left of it. -/
inductive ReadsNext (r : Reader) : Except Fault String → Reader → Prop where
  | line (line : List UInt8) (text : String) (rest : Reader) :
    lineFeed ∉ line → r.content = line ++ lineFeed :: rest.content →
      decodeLine (line ++ [lineFeed]) = .ok text → ReadsNext r (.ok text) rest
  | last (text : String) :
    lineFeed ∉ r.content → r.content ≠ [] → decodeLine r.content = .ok text →
      ReadsNext r (.ok text) finished
  | fails (fault : Fault) : ReadsNext r (.error fault) finished

variable {r rest : Reader} {x : Except Fault String} {text : String} {bytes : List UInt8} {n : Nat}

lemma readsNext_of_next (h : r.next = (some x, rest)) : ReadsNext r x rest := by
  cases goesOn r with
  | line line rest' hline hcontent _ hnext =>
    rw [h, deliver] at hnext
    cases hdecode : decodeLine (line ++ [lineFeed]) with
    | ok text =>
      rw [hdecode] at hnext
      cases hnext
      exact .line line text rest hline hcontent hdecode
    | error fault =>
      rw [hdecode] at hnext
      cases hnext
      exact .fails fault
  | breaksOff fault _ _ hnext =>
    cases h.symm.trans hnext
    exact .fails fault
  | last hnone hne _ hnext =>
    rw [h, deliver] at hnext
    cases hdecode : decodeLine r.content with
    | ok text =>
      rw [hdecode] at hnext
      cases hnext
      exact .last text hnone hne hdecode
    | error fault =>
      rw [hdecode] at hnext
      cases hnext
      exact .fails fault
  | ends _ _ hnext => cases h.symm.trans hnext

lemma terminates_of_decodeLine {after : List UInt8} (h : decodeLine bytes = .ok text)
    (hfeed : '\n' ∉ text.toList) (hend : lineFeed ∉ bytes → bytes ≠ [] ∧ after = []) :
    ∃ terminator, bytes = utf8Bytes (text ++ terminator) ∧ Terminates text terminator after := by
  unfold decodeLine at h
  split at h
  · rename_i s hs
    cases h
    rw [String.toList_ofList] at hfeed
    have hbytes := fromUTF8?_eq_some_iff.mp hs
    have hs' : ∀ l terminator : List Char, s.toList = l ++ terminator →
        bytes = utf8Bytes (String.ofList l ++ String.ofList terminator) := by
      intro l terminator hsplit
      rw [← String.ofList_append, ← hsplit, String.ofList_toList, hbytes]
    rcases stripTerminator_cases s.toList with hl | ⟨hl, hlast⟩ | ⟨hl, -⟩
    · exact ⟨"\r\n", hs' _ _ hl, .returnFeed after⟩
    · rw [← String.toList_ofList (l := stripTerminator s.toList)] at hlast
      exact ⟨"\n", hs' _ _ hl, .feed after hlast⟩
    · rw [hl] at hfeed ⊢
      have hnone : lineFeed ∉ bytes := by
        rw [← hbytes]
        exact lineFeed_not_mem_utf8Bytes hfeed
      obtain ⟨hne, rfl⟩ := hend hnone
      refine ⟨"", hs' s.toList [] (List.append_nil _).symm, .atEnd ?_⟩
      rintro hempty
      rw [String.ofList_toList] at hempty
      refine hne ?_
      rw [← hbytes, hempty, utf8Bytes_eq]
      rfl
  · cases h

lemma ReadsNext.lineAt (h : ReadsNext r (.ok text) rest) : LineAt 0 text r.content := by
  cases h with
  | line line _ _ hline hcontent hdecode =>
    have hone : OneLine (line ++ [lineFeed]) := by
      rw [OneLine, List.dropLast_concat]
      exact hline
    have hfeed := lineFeed_not_mem_of_decodeLine hone hdecode
    obtain ⟨terminator, hbytes, hterminates⟩ := terminates_of_decodeLine hdecode hfeed
      (fun hnone => absurd (List.mem_append_right line (List.mem_singleton_self _)) hnone)
    rw [hcontent, List.append_cons, hbytes]
    exact .intro [] _ terminator rfl (.inl rfl) hfeed hterminates
  | last _ hnone hne hdecode =>
    have hone : OneLine r.content := fun hmem => hnone (List.mem_of_mem_dropLast hmem)
    have hfeed := lineFeed_not_mem_of_decodeLine hone hdecode
    obtain ⟨terminator, hbytes, hterminates⟩ := terminates_of_decodeLine hdecode hfeed
      (fun _ => ⟨hne, rfl⟩)
    have hlast := LineAt.intro [] [] terminator rfl (.inl rfl) hfeed hterminates
    rwa [List.append_nil, ← hbytes] at hlast

lemma LineAt.behind {line : List UInt8} (h : LineAt n text bytes) (hline : lineFeed ∉ line) :
    LineAt (n + 1) text (line ++ lineFeed :: bytes) := by
  cases h with
  | intro before after terminator hcount hlast hfeed hterminates =>
    have hbytes : line ++ lineFeed :: (before ++ utf8Bytes (text ++ terminator) ++ after) =
        (line ++ lineFeed :: before) ++ utf8Bytes (text ++ terminator) ++ after := by
      simp only [List.append_assoc, List.cons_append]
    rw [hbytes]
    refine .intro _ after terminator ?_ (.inr ?_) hfeed hterminates
    · rw [List.count_append, List.count_eq_zero_of_not_mem hline, List.count_cons_self, hcount,
        Nat.zero_add]
    · rcases hlast with rfl | hlast
      · exact List.getLast?_concat
      · rw [List.getLast?_append_of_ne_nil _ (List.cons_ne_nil _ _), List.getLast?_cons, hlast]
        rfl

theorem lineAt_of_getElem?_outcomes (h : r.outcomes[n]? = some (.ok text)) :
    LineAt n text r.content := by
  induction n generalizing r with
  | zero =>
    rcases hnext : r.next with ⟨_ | x, rest⟩
    · rw [outcomes_of_next_none hnext] at h
      cases h
    · rw [outcomes_of_next_some hnext] at h
      cases h
      exact (readsNext_of_next hnext).lineAt
  | succ n ih =>
    -- behind a line without a line feed, and behind a fault, nothing more is read
    have hfinished : finished.outcomes = [] := outcomes_of_next_none rfl
    rcases hnext : r.next with ⟨_ | x, rest⟩
    · rw [outcomes_of_next_none hnext] at h
      cases h
    · rw [outcomes_of_next_some hnext, List.getElem?_cons_succ] at h
      cases readsNext_of_next hnext with
      | line line _ _ hline hcontent _ =>
        rw [hcontent]
        exact (ih h).behind hline
      | last =>
        rw [hfinished] at h
        cases h
      | fails =>
        rw [hfinished] at h
        cases h

end Places

end SourceSplice.Proofs
