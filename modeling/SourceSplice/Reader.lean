import SourceSplice.Fault
/-!
# Reading lines

A reader hands out the bytes of one file piece by piece, may be interrupted between two pieces,
and ends either at the end of the file or in a fault. This module cuts what it hands out into
lines: a line extends to the next line feed, and its terminator, a line feed with at most one
carriage return before it, is not part of its text.

`Reader.next` reads one line and `Reader.outcomes` all of them. A line that is not valid UTF-8 and
a fault each end the file with one error; the incomplete line before a fault is dropped, and a
fault is reported in preference to bad bytes in that line.
-/

namespace SourceSplice

/-- What a reader answers to one request for bytes. -/
inductive Delivery where
  | bytes (bytes : List UInt8)
  /-- Nothing yet: the request was interrupted and is to be made again. -/
  | interrupted
  deriving DecidableEq, Repr

/-- What a reader will hand out. -/
structure Reader where
  deliveries : List Delivery
  /-- The fault in which reading ends after the last delivery; at the end of the file there is
  none. -/
  fault : Option Fault := none
  deriving DecidableEq, Repr

/-- The byte that ends a line. -/
def lineFeed : UInt8 := 10

namespace Delivery

def content : Delivery → List UInt8
  | .bytes b => b
  | .interrupted => []

/-- The bytes up to and including the first line feed, whether there was one, and what is left
to deliver. -/
def cutLine : List Delivery → List UInt8 × Bool × List Delivery
  | [] => ([], false, [])
  | .interrupted :: ds => cutLine ds
  | .bytes b :: ds =>
    let before := b.takeWhile (· != lineFeed)
    match b.dropWhile (· != lineFeed) with
    | _ :: after => (before ++ [lineFeed], true, .bytes after :: ds)
    | [] =>
      let (more, found, rest) := cutLine ds
      (before ++ more, found, rest)

def size : List Delivery → Nat
  | [] => 0
  | d :: ds => d.content.length + size ds

theorem length_dropWhile_add (b : List UInt8) :
    (b.takeWhile (· != lineFeed)).length + (b.dropWhile (· != lineFeed)).length = b.length := by
  rw [← List.length_append, List.takeWhile_append_dropWhile]

theorem size_cutLine (ds : List Delivery) :
    (cutLine ds).1.length + size (cutLine ds).2.2 = size ds := by
  fun_induction cutLine ds with
  | case1 => rfl
  | case2 ds ih => simpa [size, content] using ih
  | case3 b ds before x after h =>
    have := length_dropWhile_add b
    rw [h] at this
    simp only [List.length_cons] at this
    simp only [size, content, List.length_append, List.length_singleton, before]
    omega
  | case4 b ds before h more found rest heq ih =>
    have := length_dropWhile_add b
    rw [h] at this
    simp only [List.length_nil] at this
    rw [heq] at ih
    simp only [size, content, List.length_append, before] at ih ⊢
    omega

theorem cutLine_ne_nil {ds : List Delivery} (h : (cutLine ds).2.1 = true) :
    (cutLine ds).1 ≠ [] := by
  fun_induction cutLine ds with
  | case1 => simp at h
  | case2 ds ih => exact ih h
  | case3 => simp
  | case4 b ds before hb more found rest heq ih =>
    rw [heq] at ih
    simp only at h ih
    simp [ih h]

end Delivery

namespace Reader

/-- A reader over a whole file at once. -/
def ofBytes (b : List UInt8) : Reader where
  deliveries := [.bytes b]

def finished : Reader where
  deliveries := []

/-- A text without the terminator at its end. -/
def stripTerminator (s : List Char) : List Char :=
  match s.reverse with
  | '\n' :: '\r' :: r => r.reverse
  | '\n' :: r => r.reverse
  | _ => s

/-- The text of a line whose bytes are given with their terminator. -/
def decodeLine (b : List UInt8) : Except Fault String :=
  match String.fromUTF8? ⟨b.toArray⟩ with
  | some s => .ok (String.ofList (stripTerminator s.toList))
  | none => .error .invalidEncoding

/-- A line that was read, with the reader behind it; after a line that cannot be decoded nothing
more is read. -/
def deliver (b : List UInt8) (rest : Reader) : Option (Except Fault String) × Reader :=
  match decodeLine b with
  | .ok text => (some (.ok text), rest)
  | .error f => (some (.error f), finished)

/-- The next line, or the error that ends the file, or nothing at its end. -/
def next (r : Reader) : Option (Except Fault String) × Reader :=
  let (bytes, found, rest) := Delivery.cutLine r.deliveries
  if found then deliver bytes { r with deliveries := rest }
  else
    match r.fault with
    | some f => (some (.error f), finished)
    | none => if bytes = [] then (none, finished) else deliver bytes finished

/-- What bounds the number of lines that are still to come. -/
def size (r : Reader) : Nat :=
  Delivery.size r.deliveries + if r.fault.isSome then 1 else 0

@[simp] theorem size_finished : finished.size = 0 := rfl

theorem size_deliver_le (b : List UInt8) (rest : Reader) :
    (deliver b rest).2.size ≤ rest.size := by
  unfold deliver
  split <;> simp

theorem size_next_lt {r : Reader} {x : Except Fault String} (h : r.next.1 = some x) :
    r.next.2.size < r.size := by
  have hs := Delivery.size_cutLine r.deliveries
  have hn := @Delivery.cutLine_ne_nil r.deliveries
  revert h hs hn
  unfold next
  rcases Delivery.cutLine r.deliveries with ⟨bytes, found, rest⟩
  simp only
  intro h hs hn
  have hpos : bytes ≠ [] → 0 < bytes.length := List.length_pos_iff.mpr
  cases found with
  | true =>
    simp only [if_true] at h ⊢
    have hle := size_deliver_le bytes { r with deliveries := rest }
    have := hpos (hn rfl)
    simp only [size] at hle ⊢
    omega
  | false =>
    simp only [Bool.false_eq_true, if_false] at h ⊢
    cases hf : r.fault with
    | some f =>
      rw [size_finished]
      simp [size, hf]
    | none =>
      simp only [hf] at h
      by_cases hb : bytes = []
      · simp [hb] at h
      · simp only [hb, if_false]
        have hle := size_deliver_le bytes finished
        have := hpos hb
        rw [size_finished] at hle
        have : r.size = Delivery.size r.deliveries := by simp [size, hf]
        omega

/-- Everything that reading line by line gives, up to the end of the file. -/
def outcomes (r : Reader) : List (Except Fault String) :=
  match r.next, @size_next_lt r with
  | (none, _), _ => []
  | (some x, rest), smaller =>
    have := smaller rfl
    x :: outcomes rest
termination_by r.size

theorem outcomes_of_next_none {r last : Reader} (h : r.next = (none, last)) : r.outcomes = [] := by
  rw [outcomes]
  split
  · rfl
  · rename_i h' _
    cases h'.symm.trans h

theorem outcomes_of_next_some {r rest : Reader} {x : Except Fault String}
    (h : r.next = (some x, rest)) : r.outcomes = x :: rest.outcomes := by
  rw [outcomes]
  split
  · rename_i h' _
    cases h'.symm.trans h
  · rename_i h' _
    cases h'.symm.trans h
    rfl

end Reader

end SourceSplice
