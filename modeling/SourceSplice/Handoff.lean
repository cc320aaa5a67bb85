/-!
# Handing items over

A channel between one sender and one receiver with room for one item. A send does not return
before the receiver has taken the item or has given up, and a receive waits for an item or for the
end of the sender. This module holds the state of a channel and the steps that each side takes on
it while it alone has access: every operation is a sequence of such steps with waiting between
them.
-/

namespace SourceSplice

/-- Why a handoff did not take place. -/
inductive HandoffError where
  /-- The receiver gave up before it took the item. -/
  | cancelled
  /-- The sender is gone and left no item. -/
  | closed
  /-- The other side broke off while it had access to the channel. -/
  | poisoned (detail : String)
  deriving DecidableEq, Repr

namespace HandoffError

def kindName : HandoffError → String
  | cancelled => "Cancelled"
  | closed => "Closed"
  | poisoned _ => "MutexPoisoned"

def message : HandoffError → String
  | cancelled => "Receiver cancelled the handoff"
  | closed => "Sender closed and slot is empty"
  | poisoned detail => "Mutex poisoned: " ++ detail

end HandoffError

/-- The state that both sides of a channel share. -/
structure Channel (α : Type) where
  slot : Option α := none
  closed : Bool := false
  cancelled : Bool := false
  deriving DecidableEq, Repr

namespace Channel

variable {α : Type}

/-- Whether a sender has to wait: the slot is full and the receiver has not given up. -/
def senderWaits (c : Channel α) : Bool :=
  c.slot.isSome && !c.cancelled

/-- Whether a receiver has to wait: the slot is empty and the sender is still there. -/
def receiverWaits (c : Channel α) : Bool :=
  c.slot.isNone && !c.closed

/-- The first half of a send, for a sender that does not have to wait: puts the item into the
slot, unless the receiver has given up. -/
def offer (c : Channel α) (x : α) : Except HandoffError (Channel α) :=
  if c.cancelled then .error .cancelled else .ok { c with slot := some x }

/-- The second half of a send, for a sender that does not have to wait: an item still in the slot
is taken back. -/
def settle (c : Channel α) : Except HandoffError Unit × Channel α :=
  match c.slot with
  | some _ => (.error .cancelled, { c with slot := none })
  | none => (.ok (), c)

/-- A receive that does not have to wait. -/
def take (c : Channel α) : Except HandoffError α × Channel α :=
  match c.slot with
  | some x => (.ok x, { c with slot := none })
  | none => (.error .closed, c)

/-- The receiver gives up. An item in the slot is left to the sender to take back. -/
def cancel (c : Channel α) : Channel α :=
  { c with cancelled := true }

/-- The sender goes. -/
def close (c : Channel α) : Channel α :=
  { c with closed := true }

end Channel

end SourceSplice
