import SourceSplice.Handoff
/-!
# Exchanges over a channel

What two clients see who use a channel in turn, one of them for sending and one for receiving. A
send that has to wait stays pending until the receiver takes its item or gives up; everything else
that would wait for ever is refused.
-/

namespace SourceSplice

/-- A channel with what its two clients are doing. -/
structure Exchange (α : Type) where
  channel : Channel α := {}
  /-- Whether a send waits for the receiver. -/
  pending : Bool := false
  senderGone : Bool := false
  receiverGone : Bool := false
  deriving DecidableEq, Repr

namespace Exchange

variable {α : Type}

/-- What a send comes to. -/
inductive SendState where
  | pending
  | failed (error : HandoffError)
  deriving DecidableEq, Repr

/-- The end of the pending send, if there is one and it no longer has to wait. -/
def settlePending (e : Exchange α) : Option (Except HandoffError Unit) × Exchange α :=
  if e.pending && !e.channel.senderWaits then
    let (result, channel) := e.channel.settle
    (some result, { e with channel, pending := false })
  else (none, e)

/-- Sends an item, unless a send is pending or the sender is gone. -/
def send? (e : Exchange α) (x : α) : Option (SendState × Exchange α) :=
  if e.pending || e.senderGone then none
  else
    match e.channel.offer x with
    | .error error => some (.failed error, e)
    | .ok channel => some (.pending, { e with channel, pending := true })

/-- Receives an item, unless the receiver is gone or would have to wait; the second part is the
end of the pending send. -/
def receive? (e : Exchange α) :
    Option (Except HandoffError α × Option (Except HandoffError Unit) × Exchange α) :=
  if e.receiverGone || e.channel.receiverWaits then none
  else
    let (result, channel) := e.channel.take
    let (sent, e) := settlePending { e with channel }
    some (result, sent, e)

/-- The receiver gives up, unless it is gone. -/
def cancel? (e : Exchange α) : Option (Option (Except HandoffError Unit) × Exchange α) :=
  if e.receiverGone then none
  else some (settlePending { e with channel := e.channel.cancel })

/-- The receiver gives up and goes, unless it is gone already. -/
def dropReceiver? (e : Exchange α) : Option (Option (Except HandoffError Unit) × Exchange α) :=
  (e.cancel?).map fun r => (r.1, { r.2 with receiverGone := true })

/-- The sender goes, unless it is gone already or a send is pending. -/
def dropSender? (e : Exchange α) : Option (Exchange α) :=
  if e.pending || e.senderGone then none
  else some { e with channel := e.channel.close, senderGone := true }

/-- Whether the sender is gone, as the receiver sees it. -/
def isClosed? (e : Exchange α) : Option Bool :=
  if e.receiverGone then none else some e.channel.closed

/-- Whether the receiver has given up, as the sender sees it. -/
def isCancelled? (e : Exchange α) : Option Bool :=
  if e.senderGone then none else some e.channel.cancelled

end Exchange

end SourceSplice
