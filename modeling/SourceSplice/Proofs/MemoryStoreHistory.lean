import Mathlib.Tactic
import SourceSplice.FileSystem.Clones
/-!
# A memory file system as its clients know it

All that a client learns about a memory file system follows from what was asked before and what the
answers were, through whichever clone: a path is found if something was written under it, a reader
gives what was last written when it was opened, and the readers that are open are those that were
opened and not dropped. Clones come to one store, and each request keeps the store in step with
its history.
-/

namespace SourceSplice.Proofs
open MemorySession (Request Answer)

/-- A request of a client with its answer. -/
abbrev Exchange := Request × Answer

section Paths

/-- Two characters that a path can have at the same place: one and the same, or both some slash. -/
def SameInPath (c d : Char) : Prop :=
  c = d ∨ (c = '/' ∨ c = '\\') ∧ (d = '/' ∨ d = '\\')

instance : DecidableRel SameInPath :=
  fun c d => inferInstanceAs (Decidable (c = d ∨ (c = '/' ∨ c = '\\') ∧ (d = '/' ∨ d = '\\')))

/-- Two spellings of one path. They differ at most in which slash stands where. -/
def SamePath (p q : String) : Prop :=
  List.Forall₂ SameInPath p.toList q.toList

instance : DecidableRel SamePath :=
  fun p q => inferInstanceAs (Decidable (List.Forall₂ SameInPath p.toList q.toList))

lemma sameInPath_iff (c d : Char) : SameInPath c d ↔
    (if c = '\\' then '/' else c) = if d = '\\' then '/' else d := by
  unfold SameInPath
  split_ifs with hc hd hd
  · simp [hc, hd]
  · simp [hc, hd, Ne.symm hd, eq_comm]
  · simp [hc, hd]
  · simp only [hc, hd, or_false]
    exact ⟨fun h => h.elim id fun ⟨hc, hd⟩ => hc.trans hd.symm, .inl⟩

lemma normalize_eq_iff (p q : String) :
    MemoryStore.normalize p = MemoryStore.normalize q ↔ SamePath p q := by
  rw [MemoryStore.normalize, MemoryStore.normalize, String.ofList_inj, ← List.forall₂_eq_eq_eq,
    List.forall₂_map_left_iff, List.forall₂_map_right_iff, SamePath]
  simp only [← sameInPath_iff]

end Paths

section History

/-- Something was written under a path. -/
def Written (path : String) (past : List Exchange) : Prop :=
  ∃ written content, (.insert written content, .done) ∈ past ∧ SamePath written path

/-- What was last written under a path; the latest exchange comes first. -/
def lastWritten (path : String) : List Exchange → Option (List UInt8)
  | [] => none
  | (.insert written content, .done) :: past =>
    if SamePath written path then some content else lastWritten path past
  | _ :: past => lastWritten path past

/-- What a client notes about a reader. -/
structure Book where
  /-- What was last written under its path before it was opened. -/
  content : List UInt8
  got : List UInt8 := []
  /-- Whether a read that asked for something gave nothing. -/
  finished : Bool := false

/-- A book after a read that asked for so many bytes. -/
def Book.enter (b : Book) (n : Nat) (bytes : List UInt8) : Book :=
  { b with got := b.got ++ bytes, finished := b.finished || (0 < n && bytes.isEmpty) }

/-- What was read is the beginning of the content, and a reader that ended has given all of it. -/
def Book.Faithful (b : Book) : Prop :=
  b.got <+: b.content ∧ (b.finished = true → b.got = b.content)

/-- The books on the readers that are open; the latest exchange comes first. -/
def booksOf : List Exchange → List Book
  | [] => []
  | (.openReader path, .opened _) :: past =>
    booksOf past ++ [{ content := (lastWritten path past).getD [] }]
  | (.read i n, .bytes bytes) :: past => (booksOf past).modify i (·.enter n bytes)
  | (.drop i, .done) :: past => (booksOf past).eraseIdx i
  | _ :: past => booksOf past

/-- The number of readers that were opened. -/
def opened (past : List Exchange) : Nat :=
  past.countP fun e => e matches (.openReader _, .opened _)

/-- The number of readers that were dropped. -/
def dropped (past : List Exchange) : Nat :=
  past.countP fun e => e matches (.drop _, .done)

lemma written_cons {path : String} {e : Exchange} {past : List Exchange}
    (he : ∀ written content, e = (.insert written content, .done) → ¬SamePath written path) :
    Written path (e :: past) ↔ Written path past := by
  refine ⟨?_, fun ⟨w, c, hmem, hw⟩ => ⟨w, c, List.mem_cons_of_mem e hmem, hw⟩⟩
  rintro ⟨w, c, hmem, hw⟩
  rcases List.mem_cons.mp hmem with rfl | hmem
  · exact absurd hw (he w c rfl)
  · exact ⟨w, c, hmem, hw⟩

lemma written_iff (path : String) (past : List Exchange) :
    Written path past ↔ lastWritten path past ≠ none := by
  fun_induction lastWritten path past with
  | case1 => simp [Written]
  | case2 written content past h =>
    exact iff_of_true ⟨written, content, List.mem_cons_self, h⟩ nofun
  | case3 written content past h ih =>
    rw [← ih, written_cons]
    rintro w c ⟨⟩
    exact h
  | case4 e past h ih =>
    rw [← ih, written_cons]
    exact fun w c he => absurd he (h w c)

end History

section Store

variable {m : MemorySession} {past : List Exchange}

/-- A reader is where its book says. -/
structure Book.Describes (b : Book) (reader : Snapshot) : Prop where
  content : b.got ++ reader.rest = b.content
  finished : b.finished = true → reader.rest = []

lemma Book.Describes.read {b : Book} {reader : Snapshot} (h : b.Describes reader) (n : Nat) :
    (b.enter n (reader.read n).1).Describes (reader.read n).2 := by
  refine ⟨?_, fun hfinished => ?_⟩
  · simp only [Book.enter, Snapshot.read, List.append_assoc, List.take_append_drop, h.content]
  · simp only [Book.enter, Snapshot.read, Bool.or_eq_true, Bool.and_eq_true, decide_eq_true_eq,
      List.isEmpty_iff, List.take_eq_nil_iff] at hfinished ⊢
    rcases hfinished with hbefore | ⟨hn, hzero | hrest⟩
    · rw [h.finished hbefore, List.drop_nil]
    · exact absurd hzero (Nat.ne_of_gt hn)
    · rw [hrest, List.drop_nil]

lemma Book.Describes.faithful {b : Book} {reader : Snapshot} (h : b.Describes reader) :
    b.Faithful := by
  rw [Book.Faithful, ← h.content]
  refine ⟨List.prefix_append b.got reader.rest, fun hfinished => ?_⟩
  rw [h.finished hfinished, List.append_nil]

lemma forall₂_modify_set {α β : Type} {R : α → β → Prop} {xs : List α} {ys : List β}
    (h : List.Forall₂ R xs ys) {i : Nat} {y y' : β} (hy : ys[i]? = some y) {f : α → α}
    (hR : ∀ x, R x y → R (f x) y') : List.Forall₂ R (xs.modify i f) (ys.set i y') := by
  induction h generalizing i with
  | nil => cases hy
  | cons hxy h ih =>
    cases i with
    | zero =>
      cases hy
      exact .cons (hR _ hxy) h
    | succ i => exact .cons hxy (ih hy)

lemma forall₂_eraseIdx {α β : Type} {R : α → β → Prop} {xs : List α} {ys : List β}
    (h : List.Forall₂ R xs ys) (i : Nat) : List.Forall₂ R (xs.eraseIdx i) (ys.eraseIdx i) := by
  induction h generalizing i with
  | nil => exact .nil
  | cons hxy h ih =>
    cases i with
    | zero => exact h
    | succ i => exact .cons hxy (ih i)

/-- A store is in step with its history, and so are the readers of its client. -/
structure InStep (past : List Exchange) (m : MemorySession) : Prop where
  content : ∀ path, m.store.content? path = lastWritten path past
  books : List.Forall₂ Book.Describes (booksOf past) m.readers
  count : m.store.openReaders = m.readers.length
  balance : m.readers.length + dropped past = opened past

lemma inStep_start : InStep [] {} :=
  ⟨fun _ => rfl, .nil, rfl, rfl⟩

lemma content?_insert (store : MemoryStore) (written path : String) (content : List UInt8) :
    (store.insert written content).content? path =
      if SamePath written path then some content else store.content? path := by
  rw [MemoryStore.content?, MemoryStore.insert, List.lookup_cons]
  by_cases h : SamePath written path
  · rw [if_pos h, beq_iff_eq.mpr ((normalize_eq_iff written path).mpr h).symm]
  · have hne := (normalize_eq_iff written path).not.mpr h
    rw [if_neg h, beq_false_of_ne (Ne.symm hne), MemoryStore.content?]

lemma serve_opened {path : String} {content : List UInt8}
    (h : m.store.content? path = some content) : m.serve (.openReader path) =
      (.opened m.readers.length,
        { store := { m.store with openReaders := m.store.openReaders + 1 }
          readers := m.readers ++ [⟨content⟩] }) := by
  simp only [MemorySession.serve, MemoryStore.openReader, h]

lemma serve_refused {path : String} (h : m.store.content? path = none) :
    m.serve (.openReader path) = (.refused (.pathNotFound (MemoryStore.normalize path)), m) := by
  simp only [MemorySession.serve, MemoryStore.openReader, h]

lemma serve_read {i : Nat} {reader : Snapshot} (h : m.readers[i]? = some reader) (n : Nat) :
    m.serve (.read i n) = (.bytes (reader.read n).1,
      { m with readers := m.readers.set i (reader.read n).2 }) := by
  simp only [MemorySession.serve, h]

lemma serve_drop {i : Nat} (h : i < m.readers.length) :
    m.serve (.drop i) =
      (.done, { store := m.store.release, readers := m.readers.eraseIdx i }) := by
  simp only [MemorySession.serve, if_pos h]

lemma InStep.serve (h : InStep past m) (r : Request) :
    InStep ((r, (m.serve r).1) :: past) (m.serve r).2 := by
  have hcount := MemorySession.openReaders_serve h.count r
  cases r with
  | insert written content =>
    refine ⟨fun path => ?_, h.books, hcount, h.balance⟩
    have hcontent := content?_insert m.store written path content
    rwa [h.content] at hcontent
  | contains path => exact ⟨h.content, h.books, hcount, h.balance⟩
  | isFile path => exact ⟨h.content, h.books, hcount, h.balance⟩
  | openReader path =>
    have hlast := h.content path
    cases hcontent : m.store.content? path with
    | none =>
      rw [serve_refused hcontent]
      exact ⟨h.content, h.books, h.count, h.balance⟩
    | some content =>
      rw [serve_opened hcontent] at hcount ⊢
      refine ⟨h.content, ?_, hcount, ?_⟩
      · rw [booksOf, ← hlast, hcontent]
        exact List.rel_append h.books (.cons ⟨rfl, nofun⟩ .nil)
      · have hopened : opened ((.openReader path, .opened m.readers.length) :: past) =
            opened past + 1 := List.countP_cons_of_pos rfl
        rw [hopened, ← h.balance, List.length_append]
        exact Nat.add_right_comm m.readers.length 1 (dropped past)
  | read i n =>
    cases hreader : m.readers[i]? with
    | none =>
      have hserve : m.serve (.read i n) = (.noReader, m) := by
        simp only [MemorySession.serve, hreader]
      rw [hserve]
      exact ⟨h.content, h.books, h.count, h.balance⟩
    | some reader =>
      rw [serve_read hreader] at hcount ⊢
      refine ⟨h.content, ?_, hcount, ?_⟩
      · exact forall₂_modify_set h.books hreader fun b hb => hb.read n
      · rw [List.length_set]
        exact h.balance
  | drop i =>
    by_cases hi : i < m.readers.length
    · rw [serve_drop hi] at hcount ⊢
      refine ⟨h.content, forall₂_eraseIdx h.books i, hcount, ?_⟩
      have hdropped : dropped ((.drop i, .done) :: past) = dropped past + 1 :=
        List.countP_cons_of_pos rfl
      have hbalance : (m.readers.eraseIdx i).length + (dropped past + 1) = opened past := by
        rw [List.length_eraseIdx_of_lt hi, ← h.balance]
        omega
      rw [hdropped]
      exact hbalance
    · have hserve : m.serve (.drop i) = (.noReader, m) := by
        simp only [MemorySession.serve, if_neg hi]
      rw [hserve]
      exact ⟨h.content, h.books, h.count, h.balance⟩

lemma InStep.serveAll (h : InStep past m) (requests : List Request) :
    InStep ((requests.zip (m.serveAll requests).1).reverse ++ past) (m.serveAll requests).2 := by
  induction requests generalizing past m with
  | nil => exact h
  | cons r requests ih =>
    have hrest := ih (h.serve r)
    rwa [List.append_cons, ← List.reverse_cons] at hrest

lemma serveAll_concat (m : MemorySession) (requests : List Request) (r : Request) :
    m.serveAll (requests ++ [r]) =
      ((m.serveAll requests).1 ++ [((m.serveAll requests).2.serve r).1],
        ((m.serveAll requests).2.serve r).2) := by
  induction requests generalizing m with
  | nil => rfl
  | cons r' requests ih => simp only [List.cons_append, MemorySession.serveAll, ih]

end Store

section Clones

variable {m : MemorySession} {told past : List Exchange} {clones : Nat}

/-- The client of one store, who holds so many clones of it. -/
def cloned (m : MemorySession) (clones : Nat) : CloneSession where
  files := [m.store.files]
  counts := [m.store.openReaders]
  handles := List.replicate clones {}
  readers := m.readers.map fun snapshot => { snapshot, count := 0 }

lemma serveThrough_cloned (m : MemorySession) (clones : Nat) (r : Request) :
    (cloned m clones).serveThrough {} r = ((m.serve r).1, cloned (m.serve r).2 clones) := by
  have hstore : (cloned m clones).store {} = m.store := rfl
  cases r with
  | insert path content => rfl
  | contains path => rfl
  | isFile path => rfl
  | openReader path =>
    simp only [CloneSession.serveThrough, MemorySession.serve, hstore]
    cases m.store.openReader path with
    | error fault => rfl
    | ok opened =>
      simp only [cloned, CloneSession.putStore, List.set_cons_zero, List.length_map,
        List.map_append, List.map_cons, List.map_nil]
  | read i n =>
    simp only [CloneSession.serveThrough, MemorySession.serve, cloned, List.getElem?_map]
    cases m.readers[i]? with
    | none => rfl
    | some reader => simp only [Option.map_some, List.map_set]
  | drop i =>
    by_cases hi : i < m.readers.length
    · simp only [CloneSession.serveThrough, MemorySession.serve, cloned, List.getElem?_map,
        List.getElem?_eq_getElem hi, Option.map_some, if_pos hi, List.eraseIdx_map]
      rfl
    · simp only [CloneSession.serveThrough, MemorySession.serve, cloned, List.getElem?_map,
        List.getElem?_eq_none (Nat.le_of_not_lt hi), Option.map_none, if_neg hi]

/-- What a client has asked and been told, through whichever clone. -/
def plainExchange : CloneSession.Request × CloneSession.Answer → Option Exchange
  | (.through _ r, .plain answer) => some (r, answer)
  | _ => none

/-- What a client has asked and been told in the course of these requests. -/
def exchanges (s : CloneSession) (requests : List CloneSession.Request) : List Exchange :=
  (requests.zip (s.serveAll requests).1).filterMap plainExchange

lemma exchanges_cons (s : CloneSession) (r : CloneSession.Request)
    (requests : List CloneSession.Request) : exchanges s (r :: requests) =
      (plainExchange (r, (s.serve r).1)).toList ++ exchanges (s.serve r).2 requests := by
  simp only [exchanges, CloneSession.serveAll, List.zip_cons_cons, List.filterMap_cons]
  cases plainExchange (r, (s.serve r).1) <;> rfl

lemma handle_cloned (h : Nat) :
    (cloned m clones).handles[h]? = if h < clones then some {} else none :=
  List.getElem?_replicate

lemma serve_through (h : Nat) (r : Request) : (cloned m clones).serve (.through h r) =
    if h < clones then (.plain (m.serve r).1, cloned (m.serve r).2 clones)
    else (.noHandle, cloned m clones) := by
  simp only [CloneSession.serve, handle_cloned]
  split_ifs with hh
  · simp only [serveThrough_cloned]
  · rfl

lemma serve_openReaders (h : Nat) : (cloned m clones).serve (.openReaders h) =
    (if h < clones then .count m.store.openReaders else .noHandle, cloned m clones) := by
  simp only [CloneSession.serve, handle_cloned]
  split_ifs with hh <;> rfl

lemma serve_clone (h : Nat) : (cloned m clones).serve (.clone h) =
    if h < clones then (.cloned clones, cloned m (clones + 1))
    else (.noHandle, cloned m clones) := by
  simp only [CloneSession.serve, handle_cloned]
  split_ifs with hh
  · simp only [cloned, List.length_replicate, List.replicate_succ']
  · rfl

/-- A client with clones of one store, who was answered as the client of that store alone. -/
def OneStore (told : List Exchange) (s : CloneSession) : Prop :=
  ∃ m clones, s = cloned m clones ∧ 0 < clones ∧
    MemorySession.serveAll {} (told.map Prod.fst) = (told.map Prod.snd, m)

lemma OneStore.serve {s : CloneSession} (h : OneStore told s) (r : CloneSession.Request) :
    OneStore (told ++ (plainExchange (r, (s.serve r).1)).toList) (s.serve r).2 := by
  obtain ⟨m, clones, rfl, hclones, htold⟩ := h
  have hsame {clones' : Nat} (hclones' : 0 < clones') :
      OneStore (told ++ []) (cloned m clones') := by
    rw [List.append_nil]
    exact ⟨m, clones', rfl, hclones', htold⟩
  cases r with
  | clone h =>
    rw [serve_clone]
    split_ifs with hh
    · exact hsame (Nat.succ_pos clones)
    · exact hsame hclones
  | openReaders h =>
    rw [serve_openReaders]
    split_ifs with hh <;> exact hsame hclones
  | through h r =>
    rw [serve_through]
    split_ifs with hh
    · refine ⟨(m.serve r).2, clones, rfl, hclones, ?_⟩
      rw [List.map_append, List.map_append]
      refine (serveAll_concat {} _ r).trans ?_
      rw [htold]
      rfl
    · exact hsame hclones

lemma OneStore.serveAll {s : CloneSession} (h : OneStore told s)
    (requests : List CloneSession.Request) :
    OneStore (told ++ exchanges s requests) (s.serveAll requests).2 := by
  induction requests generalizing told s with
  | nil =>
    rw [exchanges, List.zip_nil_left, List.filterMap_nil, List.append_nil]
    exact h
  | cons r requests ih =>
    rw [exchanges_cons, ← List.append_assoc]
    exact ih (h.serve r)

lemma oneStore_start : OneStore [] {} :=
  ⟨{}, 1, rfl, Nat.one_pos, rfl⟩

lemma OneStore.inStep {s : CloneSession} (h : OneStore told s) :
    ∃ m clones, s = cloned m clones ∧ InStep told.reverse m := by
  obtain ⟨m, clones, rfl, -, htold⟩ := h
  have hrun := inStep_start.serveAll (told.map Prod.fst)
  have hzip : told = (told.map Prod.fst).zip (told.map Prod.snd) := List.zip_of_prod rfl rfl
  rw [htold, ← hzip, List.append_nil] at hrun
  exact ⟨m, clones, rfl, hrun⟩

/-- What a client with clones of a store can rely on after these exchanges, the latest of which
comes first. -/
structure FollowsHistory (past : List Exchange) (s : CloneSession) : Prop where
  /-- It makes no difference through which clones the requests were made. -/
  alone : OneStore past.reverse s
  /-- Every clone can be cloned. -/
  clonable : ∀ h < s.handles.length, (s.serve (.clone h)).1 = .cloned s.handles.length ∧
    (s.serve (.clone h)).2.handles.length = s.handles.length + 1
  /-- A path is found if something was written under it. -/
  found : ∀ path, Written path past → ∀ h < s.handles.length,
    (s.serve (.through h (.contains path))).1 = .plain (.truth true) ∧
      (s.serve (.through h (.isFile path))).1 = .plain (.truth true) ∧
      (s.serve (.through h (.openReader path))).1 = .plain (.opened s.readers.length)
  /-- Any other path is not found, and that it does not open changes nothing. -/
  missing : ∀ path, ¬Written path past → ∀ h < s.handles.length,
    (s.serve (.through h (.contains path))).1 = .plain (.truth false) ∧
      (s.serve (.through h (.isFile path))).1 = .plain (.truth false) ∧
      s.serve (.through h (.openReader path)) =
        (.plain (.refused (.pathNotFound (MemoryStore.normalize path))), s)
  /-- Every reader that is open has its book, and can be read from and dropped. -/
  held : s.readers.length = (booksOf past).length ∧
    ∀ i < s.readers.length, ∀ h < s.handles.length,
      (∀ n, ∃ bytes, (s.serve (.through h (.read i n))).1 = .plain (.bytes bytes)) ∧
        (s.serve (.through h (.drop i))).1 = .plain .done
  /-- Every reader gives what was last written when it was opened. -/
  faithful : ∀ b ∈ booksOf past, b.Faithful
  /-- As many readers are open as were opened and not dropped. -/
  counted : ∀ h < s.handles.length, ∃ n,
    s.serve (.openReaders h) = (.count n, s) ∧ n + dropped past = opened past

lemma InStep.found (h : InStep past m) {path : String} (hwritten : Written path past) {i : Nat}
    (hi : i < clones) :
    ((cloned m clones).serve (.through i (.contains path))).1 = .plain (.truth true) ∧
      ((cloned m clones).serve (.through i (.isFile path))).1 = .plain (.truth true) ∧
      ((cloned m clones).serve (.through i (.openReader path))).1 =
        .plain (.opened m.readers.length) := by
  rw [written_iff, ← h.content] at hwritten
  obtain ⟨content, hcontent⟩ := Option.ne_none_iff_exists'.mp hwritten
  have hfound : m.store.contains path = true := by rw [MemoryStore.contains, hcontent]; rfl
  refine ⟨?_, ?_, ?_⟩
  · rw [serve_through, if_pos hi, MemorySession.serve, hfound]
  · rw [serve_through, if_pos hi, MemorySession.serve, MemoryStore.isFile, hfound]
  · rw [serve_through, if_pos hi, serve_opened hcontent]

lemma InStep.missing (h : InStep past m) {path : String} (hmissing : ¬Written path past) {i : Nat}
    (hi : i < clones) :
    ((cloned m clones).serve (.through i (.contains path))).1 = .plain (.truth false) ∧
      ((cloned m clones).serve (.through i (.isFile path))).1 = .plain (.truth false) ∧
      (cloned m clones).serve (.through i (.openReader path)) =
        (.plain (.refused (.pathNotFound (MemoryStore.normalize path))), cloned m clones) := by
  rw [written_iff, ← h.content, not_not] at hmissing
  have hfound : m.store.contains path = false := by rw [MemoryStore.contains, hmissing]; rfl
  refine ⟨?_, ?_, ?_⟩
  · rw [serve_through, if_pos hi, MemorySession.serve, hfound]
  · rw [serve_through, if_pos hi, MemorySession.serve, MemoryStore.isFile, hfound]
  · rw [serve_through, if_pos hi, serve_refused hmissing]

/-- Whatever a client asks of a new memory file system and its clones, the answers follow from what
was asked before. -/
theorem clones_follow_history (requests : List CloneSession.Request) :
    FollowsHistory (exchanges {} requests).reverse (CloneSession.serveAll {} requests).2 := by
  have hone : OneStore (exchanges {} requests) (CloneSession.serveAll {} requests).2 :=
    oneStore_start.serveAll requests
  obtain ⟨m, clones, hs, hstep⟩ := hone.inStep
  have hhandles : (cloned m clones).handles.length = clones := List.length_replicate
  have hreaders : (cloned m clones).readers.length = m.readers.length := List.length_map _
  rw [hs] at hone ⊢
  refine ⟨?_, fun h hh => ?_, fun path hwritten h hh => ?_, fun path hmissing h hh => ?_,
    ⟨?_, fun i hi h hh => ?_⟩, fun b hb => ?_, fun h hh => ?_⟩
  · rwa [List.reverse_reverse]
  · rw [hhandles] at hh ⊢
    rw [serve_clone, if_pos hh]
    exact ⟨rfl, List.length_replicate⟩
  · rw [hreaders]
    exact hstep.found hwritten (hhandles ▸ hh)
  · exact hstep.missing hmissing (hhandles ▸ hh)
  · rw [hreaders]
    exact hstep.books.length_eq.symm
  · rw [hhandles] at hh
    rw [hreaders] at hi
    have hreader := List.getElem?_eq_getElem hi
    refine ⟨fun n => ⟨(m.readers[i].read n).1, ?_⟩, ?_⟩
    · rw [serve_through, if_pos hh, serve_read hreader]
    · rw [serve_through, if_pos hh, serve_drop hi]
  · have hbooks := hstep.books.imp fun _ _ h => And.intro h.faithful h
    exact ((List.forall₂_and_left _ _).mp hbooks).1 b hb
  · rw [hhandles] at hh
    refine ⟨m.store.openReaders, ?_, ?_⟩
    · rw [serve_openReaders, if_pos hh]
    · rw [hstep.count]
      exact hstep.balance

example : (CloneSession.serveAll {}
    [.through 0 (.insert "d/a" [1, 2]), .clone 0, .through 1 (.openReader "d\\a"),
      .through 1 (.insert "d\\a" [3]), .through 0 (.read 0 5), .openReaders 0]).1 =
    [.plain .done, .cloned 1, .plain (.opened 0), .plain .done, .plain (.bytes [1, 2]),
      .count 1] := by
  decide +kernel

end Clones

end SourceSplice.Proofs
