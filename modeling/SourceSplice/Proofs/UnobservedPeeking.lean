import Mathlib.Tactic
import SourceSplice.Peekable.Client
/-!
# Looking ahead is not observed

Lookahead puts off a draw of the feed inside or makes it early, and never changes what it gives. So a
client of a peekable feed gets the draws of the bare feed, each request is answered as the bare feed
and the number of draws tell, and the feed inside is at most one draw ahead. This is so over any feed,
whether or not it stays ended, and behind any number of further lookaheads.
-/

namespace SourceSplice.Proofs
open Peekable

variable {σ α : Type} [Feed σ α]

/-- What a feed gives after so many draws. -/
def drawAt (s : σ) (k : Nat) : Option α :=
  (Feed.next (Feed.after s k)).1

/-- The number of draws among requests. -/
def draws (requests : List Request) : Nat :=
  requests.count .next

/-- Whether a client has looked ahead since its last draw. -/
def hasLooked (requests : List Request) : Bool :=
  (requests.reverse.takeWhile (· != .next)).contains .peek

lemma drawAt_after (s : σ) (k l : Nat) : drawAt (Feed.after s k) l = drawAt s (k + l) := by
  rw [drawAt, drawAt, Feed.after_add]

section Serving

/-- The answer to a request after some others, as it is told by the bare feed. -/
def answerAt (s : σ) (before : List Request) : Request → Answer α
  | .next => .drawn (drawAt s (draws before))
  | .peek => .looked (drawAt s (draws before))
  | .hasCached => .cached (hasLooked before && (drawAt s (draws before)).isSome)

/-- The peekable feed after some requests, as it is told by the bare feed. -/
def stateAt (s : σ) (before : List Request) : Peekable σ α :=
  if hasLooked before then
    { inner := Feed.after s (draws before + 1), cached := some (drawAt s (draws before)) }
  else { inner := Feed.after s (draws before) }

lemma draws_concat (before : List Request) (r : Request) :
    draws (before ++ [r]) = if r = .next then draws before + 1 else draws before := by
  cases r <;> simp [draws]

lemma hasLooked_concat (before : List Request) (r : Request) :
    hasLooked (before ++ [r]) = match r with
      | .next => false
      | .peek => true
      | .hasCached => hasLooked before := by
  cases r <;> simp [hasLooked]

lemma serve_stateAt (s : σ) (before : List Request) (r : Request) :
    (stateAt s before).serve r = (answerAt s before r, stateAt s (before ++ [r])) := by
  have hdraws := draws_concat before r
  have hlooked := hasLooked_concat before r
  cases r with
  | next =>
    cases h : hasLooked before <;>
      simp [stateAt, h, hdraws, hlooked, serve, Peekable.next, answerAt, Feed.after_succ, drawAt]
  | peek =>
    cases h : hasLooked before <;>
      simp [stateAt, h, hdraws, hlooked, serve, Peekable.peek, answerAt, Feed.after_succ, drawAt]
  | hasCached =>
    cases h : hasLooked before with
    | false => simp [stateAt, h, hdraws, hlooked, serve, Peekable.hasCached, answerAt]
    | true =>
      cases hx : drawAt s (draws before) <;>
        simp [stateAt, h, hx, hdraws, hlooked, serve, Peekable.hasCached, answerAt]

lemma serveAll_stateAt (s : σ) (before requests : List Request) :
    ((stateAt s before).serveAll requests).2 = stateAt s (before ++ requests) ∧
      ∀ i, ((stateAt s before).serveAll requests).1[i]? =
        requests[i]?.map (answerAt s (before ++ requests.take i)) := by
  induction requests generalizing before with
  | nil => simp [serveAll]
  | cons r requests ih =>
    obtain ⟨hstate, hanswers⟩ := ih (before ++ [r])
    simp only [serveAll, serve_stateAt]
    refine ⟨by simpa using hstate, fun i => ?_⟩
    cases i with
    | zero => simp
    | succ i => simpa using hanswers i

lemma length_serveAll (p : Peekable σ α) (requests : List Request) :
    (p.serveAll requests).1.length = requests.length := by
  induction requests generalizing p with
  | nil => rfl
  | cons r requests ih => exact congrArg (· + 1) (ih _)

lemma intoInner_stateAt (s : σ) (before : List Request) : (stateAt s before).intoInner =
    Feed.after s (draws before + (hasLooked before).toNat) := by
  rw [stateAt]
  cases hasLooked before <;> rfl

lemma held_stateAt (s : σ) (before : List Request) : (stateAt s before).held =
    if hasLooked before then (drawAt s (draws before)).toList else [] := by
  rw [stateAt]
  cases hasLooked before with
  | false => rfl
  | true => cases drawAt s (draws before) <;> rfl

lemma after_stateAt (s : σ) (before : List Request) (k : Nat) :
    Feed.after (stateAt s before) k = stateAt s (before ++ List.replicate k .next) := by
  induction k generalizing before with
  | zero => rw [Feed.after, List.replicate_zero, List.append_nil]
  | succ k ih =>
    have hnext : (Feed.next (stateAt s before)).2 = stateAt s (before ++ [.next]) :=
      congrArg Prod.snd (serve_stateAt s before .next)
    rw [Feed.after, hnext, ih, List.append_assoc, List.singleton_append, ← List.replicate_succ]

lemma drawAt_stateAt (s : σ) (before : List Request) (k : Nat) :
    drawAt (stateAt s before) k = drawAt s (draws before + k) := by
  have hserve := serve_stateAt s (before ++ List.replicate k .next) .next
  have hdraws : draws (before ++ List.replicate k .next) = draws before + k := by
    simp [draws]
  rw [answerAt, hdraws, ← after_stateAt] at hserve
  exact Answer.drawn.inj (congrArg Prod.fst hserve)

lemma draws_take_eq {requests : List Request} {i j : Nat} (hij : i ≤ j)
    (hnone : ∀ l, i ≤ l → l < j → requests[l]? ≠ some .next) :
    draws (requests.take j) = draws (requests.take i) := by
  induction j, hij using Nat.le_induction with
  | base => rfl
  | succ j hij ih =>
    have hlast := hnone j hij (Nat.lt_succ_self j)
    rw [List.take_add_one, ← ih fun l hl hlt => hnone l hl (Nat.lt_succ_of_lt hlt)]
    cases h : requests[j]? with
    | none => rw [Option.toList_none, List.append_nil]
    | some r =>
      rw [Option.toList_some, draws_concat, if_neg]
      rintro rfl
      exact hlast h

end Serving

section Nesting

lemma next_ofFeed (s : σ) (depth : Nat) : Feed.next (Nested.ofFeed s depth : Nested σ α depth) =
    ((Feed.next s).1, Nested.ofFeed (Feed.next s).2 depth) := by
  induction depth with
  | zero => rfl
  | succ depth ih =>
    -- lookahead that holds nothing back passes a draw on to the feed inside
    have hpass : Feed.next (Nested.ofFeed s (depth + 1) : Nested σ α (depth + 1)) =
        ((Feed.next (Nested.ofFeed s depth : Nested σ α depth)).1,
          { inner := (Feed.next (Nested.ofFeed s depth : Nested σ α depth)).2 }) := rfl
    rw [hpass, ih]
    rfl

lemma after_ofFeed (s : σ) (depth k : Nat) :
    Feed.after (Nested.ofFeed s depth : Nested σ α depth) k =
      Nested.ofFeed (Feed.after s k) depth := by
  induction k generalizing s with
  | zero => rfl
  | succ k ih => rw [Feed.after, next_ofFeed, ih, Feed.after]

lemma drawAt_ofFeed (s : σ) (depth k : Nat) :
    drawAt (Nested.ofFeed s depth : Nested σ α depth) k = drawAt s k := by
  rw [drawAt, after_ofFeed, next_ofFeed, drawAt]

end Nesting

/-- Some requests were answered, and a peekable feed left behind, as a bare feed tells. Inside the
peekable feed there is the bare one behind so many further lookaheads. -/
structure Unobserved (s : σ) (depth : Nat) (requests : List Request) (answers : List (Answer α))
    (p : Peekable (Nested σ α depth) α) : Prop where
  drawn : ∀ i : Nat, requests[i]? = some .next →
    answers[i]? = some (.drawn (drawAt s (draws (requests.take i))))
  looked : ∀ i : Nat, requests[i]? = some .peek →
    answers[i]? = some (.looked (drawAt s (draws (requests.take i))))
  /-- Every look shows what the next draw gives. -/
  follows : ∀ i j : Nat, i < j → requests[i]? = some .peek → requests[j]? = some .next →
    (∀ l : Nat, i < l → l < j → requests[l]? ≠ some .next) →
      ∃ x, answers[i]? = some (.looked x) ∧ answers[j]? = some (.drawn x)
  /-- An item is held back if the client has looked since its last draw, and not at the end. -/
  cached : ∀ i : Nat, requests[i]? = some .hasCached → answers[i]? = some
    (.cached (hasLooked (requests.take i) && (drawAt s (draws (requests.take i))).isSome))
  length : answers.length = requests.length
  /-- The feed inside was drawn from once for each draw, and once more for a look since then. -/
  inner : p.intoInner = Nested.ofFeed (Feed.after s (draws requests + (hasLooked requests).toNat))
    depth
  /-- With lookahead, further draws go on where the client has left off. -/
  rest : ∀ k, drawAt p k = drawAt s (draws requests + k)
  /-- Without lookahead, they go on there or one draw later: what is held back is lost. -/
  innerRest : ∀ k, drawAt p.intoInner k =
    drawAt s (draws requests + (hasLooked requests).toNat + k)
  held : p.held = if hasLooked requests then (drawAt s (draws requests)).toList else []

/-- Whatever a client asks of a peekable feed and in whichever order, its draws are those of the bare
feed, it is shown just what it will draw, and the feed inside is where the bare feed is after as many
draws, or one draw ahead with that item held back. -/
theorem peeking_unobserved (s : σ) (depth : Nat) (requests : List Request) :
    Unobserved s depth requests
      (Peekable.serveAll { inner := (Nested.ofFeed s depth : Nested σ α depth) } requests).1
      (Peekable.serveAll { inner := (Nested.ofFeed s depth : Nested σ α depth) } requests).2 := by
  obtain ⟨hstate, hanswers⟩ := serveAll_stateAt (Nested.ofFeed s depth : Nested σ α depth) [] requests
  have hlength := length_serveAll (stateAt (Nested.ofFeed s depth : Nested σ α depth) []) requests
  have hstart : stateAt (Nested.ofFeed s depth : Nested σ α depth) [] =
      { inner := Nested.ofFeed s depth } := rfl
  simp only [hstart, List.nil_append] at hstate hanswers hlength
  rw [hstate]
  have hdrawn : ∀ i : Nat, requests[i]? = some .next →
      (Peekable.serveAll { inner := (Nested.ofFeed s depth : Nested σ α depth) } requests).1[i]? =
        some (.drawn (drawAt s (draws (requests.take i)))) := by
    intro i hi
    rw [hanswers, hi, Option.map_some, answerAt, drawAt_ofFeed]
  have hlooked : ∀ i : Nat, requests[i]? = some .peek →
      (Peekable.serveAll { inner := (Nested.ofFeed s depth : Nested σ α depth) } requests).1[i]? =
        some (.looked (drawAt s (draws (requests.take i)))) := by
    intro i hi
    rw [hanswers, hi, Option.map_some, answerAt, drawAt_ofFeed]
  refine ⟨hdrawn, hlooked, fun i j hij hi hj hnone => ?_, fun i hi => ?_, hlength, ?_, fun k => ?_,
    fun k => ?_, ?_⟩
  · -- nothing is drawn between the look and the draw that follows it
    refine ⟨_, hlooked i hi, ?_⟩
    rw [hdrawn j hj, draws_take_eq hij.le]
    intro l hl hlt
    rcases hl.eq_or_lt with rfl | hl
    · rw [hi]
      decide
    · exact hnone l hl hlt
  · rw [hanswers, hi, Option.map_some, answerAt, drawAt_ofFeed]
  · rw [intoInner_stateAt, after_ofFeed]
  · rw [drawAt_stateAt, drawAt_ofFeed]
  · rw [intoInner_stateAt, drawAt_after, drawAt_ofFeed]
  · rw [held_stateAt, drawAt_ofFeed]

end SourceSplice.Proofs
