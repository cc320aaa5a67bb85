import SourceSplice.Generator.Chain
/-!
# Stages on integers

Sources and stages over the 64-bit integers. The arithmetic of the stages wraps around, while a
source that counts up breaks off at the largest integer.
-/

namespace SourceSplice.Integer

/-- The integers from `first` on, up to but not including `last`. -/
def range (name : String) (first last : Int64) : Source Int64 where
  name
  item n := if first.toInt + n < last.toInt then some (first + Int64.ofNat n) else none
  horizon := (last.toInt - first.toInt).toNat

/-- The integers from `first` on up to the largest one, at which counting breaks off. -/
def countFrom (name : String) (first : Int64) : Source Int64 where
  name
  item n :=
    if first.toInt + n < Int64.maxValue.toInt then some (first + Int64.ofNat n) else none
  failure := some "attempt to add with overflow"
  horizon := (Int64.maxValue.toInt - first.toInt).toNat

/-- A linear map of the integers that may break off on one of them. -/
structure Linear where
  factor : Int64 := 1
  offset : Int64 := 0
  breaksOn : Option Int64 := none
  deriving DecidableEq, Repr

/-- A set of integers, by remainder and bound, whose test may break off on one of them. -/
structure Selection where
  modulus : Int64 := 1
  remainder : Int64 := 0
  /-- Every selected integer is smaller. -/
  bound : Int64 := Int64.maxValue
  breaksOn : Option Int64 := none
  deriving DecidableEq, Repr

/-- The remainder of an integer, which is never negative. There is none by zero, and none if the
quotient does not fit. -/
def euclideanRemainder (modulus x : Int64) : Except String Int64 :=
  if modulus = 0 then .error "attempt to calculate the remainder with a divisor of zero"
  else if modulus = -1 ∧ x = Int64.minValue then
    .error "attempt to calculate the remainder with overflow"
  else .ok (Int64.ofInt (x.toInt % modulus.toInt))

def Linear.stage {ω : Type} (l : Linear) : Stage Int64 ω :=
  .transform fun x =>
    if l.breaksOn = some x then .error ("transform failed at " ++ toString x)
    else .ok (x * l.factor + l.offset)

/-- The stage that keeps what is selected. -/
def Selection.stage {ω : Type} (s : Selection) : Stage Int64 ω :=
  .filter fun x =>
    if s.breaksOn = some x then .error ("filter failed at " ++ toString x)
    else (euclideanRemainder s.modulus x).map fun r => r == s.remainder && x < s.bound

/-- A label to write in front of the integers with a given remainder, and where to write it. -/
structure Label where
  text : String := ""
  modulus : Int64 := 1
  remainder : Int64 := 0
  sink : Sink := {}
  deriving DecidableEq, Repr

/-- The line about an integer, if there is one. -/
def Label.line (l : Label) (x : Int64) : Except String (Option String) :=
  (euclideanRemainder l.modulus x).map fun r =>
    if r = l.remainder then some (l.text ++ toString x) else none

/-- The stage that writes labelled integers, one a line. -/
def Label.stage (l : Label) : Stage Int64 Sink :=
  .tap
    (fun x =>
      match l.line x with
      | .ok _ => none
      | .error text => some text)
    { project := fun x => (l.line x).toOption.join
      writer := l.sink }

/-- A source of integers. -/
inductive SourceSpec where
  | items (items : List Int64)
  | range (first last : Int64)
  | countFrom (first : Int64)
  /-- Gives items and then breaks off with a text, if there is one. -/
  | producer (items : List Int64) (failure : Option String)
  deriving DecidableEq, Repr

namespace SourceSpec

def source (name : String) : SourceSpec → Source Int64
  | items xs => Source.ofList name xs none
  | range first last => Integer.range name first last
  | countFrom first => Integer.countFrom name first
  | producer xs failure => { Source.ofList name xs failure with looks := false }

/-- Whether the source is made to break off. Counting breaks off too, but only beyond the largest
integer, and does not count as such. -/
def canBreak : SourceSpec → Bool
  | producer _ failure => failure.isSome
  | _ => false

end SourceSpec

/-- A stage on integers. -/
inductive StageSpec where
  | linear (l : Linear)
  | selection (s : Selection)
  | label (l : Label)
  deriving DecidableEq, Repr

namespace StageSpec

def stage : StageSpec → Stage Int64 Sink
  | linear l => l.stage
  | selection s => s.stage
  | label l => l.stage

def canBreak : StageSpec → Bool
  | linear l => l.breaksOn.isSome
  | selection s => s.breaksOn.isSome
  | label _ => false

def isSelection : StageSpec → Bool
  | selection _ => true
  | _ => false

/-- Whether the stage writes to a sink that can fill up. -/
def isLimited : StageSpec → Bool
  | label l => l.sink.room.isSome
  | _ => false

end StageSpec

end SourceSplice.Integer
