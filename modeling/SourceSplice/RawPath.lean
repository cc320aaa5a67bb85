import SourceSplice.Writer
/-!
# Paths as bytes

The operating system takes any bytes for a path, also some that spell no text. Such a path has no
text to hand on. Where it is shown, one replacement character stands for each character that breaks
off and for each byte that starts none.
-/

namespace SourceSplice

namespace Text

/-- The bytes that have to follow a first byte in one character: how many, and the bounds of the
next one. -/
def followers (first : UInt8) : Nat × UInt8 × UInt8 :=
  if 0xC2 ≤ first ∧ first ≤ 0xDF then (1, 0x80, 0xBF)
  else if first = 0xE0 then (2, 0xA0, 0xBF)
  else if first = 0xED then (2, 0x80, 0x9F)
  else if 0xE1 ≤ first ∧ first ≤ 0xEF then (2, 0x80, 0xBF)
  else if first = 0xF0 then (3, 0x90, 0xBF)
  else if 0xF1 ≤ first ∧ first ≤ 0xF3 then (3, 0x80, 0xBF)
  else if first = 0xF4 then (3, 0x80, 0x8F)
  else (0, 0x80, 0xBF)

/-- How many of the bytes ahead go on with a character that lacks `owed` bytes. -/
def following : (owed : Nat) → (low high : UInt8) → List UInt8 → Nat
  | owed + 1, low, high, b :: rest =>
    if low ≤ b ∧ b ≤ high then following owed 0x80 0xBF rest + 1 else 0
  | _, _, _, _ => 0

/-- What bytes show as, when the first `taken` of them were shown already. -/
def lenientFrom : (taken : Nat) → List UInt8 → String
  | _, [] => ""
  | taken + 1, _ :: rest => lenientFrom taken rest
  | 0, first :: rest =>
    let (owed, low, high) := followers first
    let n := following owed low high rest
    -- a character that breaks off has no text, however much of it is there
    (String.fromUTF8? ⟨(first :: rest.take n).toArray⟩).getD "\ufffd" ++ lenientFrom n rest

/-- What bytes show as. -/
def lenient (bytes : List UInt8) : String :=
  lenientFrom 0 bytes

end Text

/-- A path as the operating system has it. -/
structure RawPath where
  bytes : List UInt8
  deriving DecidableEq, Repr

namespace RawPath

def ofString (path : String) : RawPath :=
  ⟨utf8Bytes path⟩

instance : Coe String RawPath := ⟨ofString⟩

/-- The text that a path spells, if it spells one. -/
def text? (p : RawPath) : Option String :=
  String.fromUTF8? ⟨p.bytes.toArray⟩

/-- A path as it stands in a message. -/
def display (p : RawPath) : String :=
  p.text?.getD (Text.lenient p.bytes)

example : display ⟨[0x61, 0xFF, 0xE2, 0x82, 0x62]⟩ = "a\ufffd\ufffdb" := by decide +kernel

end RawPath

end SourceSplice
