import SourceSplice.Handoff
/-!
# Two threads on a channel

The two sides of a channel as threads that run at their own pace. A step is what one thread does
while it alone has access to the channel, or a wake-up. A thread that has to wait falls asleep in
the same step that finds this out, and it looks again after every wake-up, also after one that
nobody asked for.

The state keeps the history of the exchange: what was passed to the sends, how they ended, and
what the receives returned.
-/

namespace SourceSplice.Handoff

/-- Where the sending thread is. -/
inductive SenderAt (α : Type) where
  /-- Between two sends. -/
  | idle
  /-- Before it looks whether the slot is free for an item. -/
  | offering (x : α)
  /-- Asleep until the slot is free for an item. -/
  | asleepOffering (x : α)
  /-- Before it looks whether its item was taken. -/
  | settling
  /-- Asleep until its item is taken. -/
  | asleepSettling
  /-- The channel is closed, and the receiver is still to be told. -/
  | leaving
  | gone

/-- Where the receiving thread is. -/
inductive ReceiverAt where
  /-- Between two operations. -/
  | idle
  /-- Before it looks for an item. -/
  | receiving
  /-- Asleep until there is an item. -/
  | asleep
  /-- The channel is cancelled, and the sender is still to be told; then the thread goes, or
  not. -/
  | cancelling (thenGo : Bool)
  | gone
  deriving DecidableEq, Repr

/-- Both threads, the channel between them, and what happened so far. -/
structure Threads (α : Type) where
  channel : Channel α := {}
  sender : SenderAt α := .idle
  receiver : ReceiverAt := .idle
  /-- The items passed to the sends, the first one first. -/
  sent : List α := []
  /-- How the sends ended, the first one first. -/
  results : List (Except HandoffError Unit) := []
  /-- What the receives returned, the first one first. -/
  receipts : List (Except HandoffError α) := []

namespace Threads

variable {α : Type}

/-- The items received, the first one first. -/
def received (t : Threads α) : List α :=
  t.receipts.filterMap Except.toOption

def wakeSender : SenderAt α → SenderAt α
  | .asleepOffering x => .offering x
  | .asleepSettling => .settling
  | other => other

def wakeReceiver : ReceiverAt → ReceiverAt
  | .asleep => .receiving
  | other => other

/-- The sender looks whether the slot is free for its item. If it puts the item there it wakes the
receiver and falls asleep. -/
def offer (t : Threads α) (x : α) : Threads α :=
  if t.channel.senderWaits then { t with sender := .asleepOffering x }
  else
    match t.channel.offer x with
    | .error e => { t with sender := .idle, results := t.results ++ [.error e] }
    | .ok channel =>
      { t with channel, sender := .asleepSettling, receiver := wakeReceiver t.receiver }

/-- The sender looks whether its item was taken. -/
def settle (t : Threads α) : Threads α :=
  if t.channel.senderWaits then { t with sender := .asleepSettling }
  else
    let (result, channel) := t.channel.settle
    { t with channel, sender := .idle, results := t.results ++ [result] }

/-- The receiver looks for an item; if it takes one it wakes the sender. -/
def receive (t : Threads α) : Threads α :=
  if t.channel.receiverWaits then { t with receiver := .asleep }
  else
    match t.channel.take with
    | (.ok x, channel) =>
      { t with
        channel
        receiver := .idle
        sender := wakeSender t.sender
        receipts := t.receipts ++ [.ok x] }
    | (.error e, channel) =>
      { t with channel, receiver := .idle, receipts := t.receipts ++ [.error e] }

/-- One step of one of the threads. -/
inductive Step : Threads α → Threads α → Prop where
  | beginSend (t : Threads α) (x : α) :
    t.sender = .idle → Step t { t with sender := .offering x, sent := t.sent ++ [x] }
  | offer (t : Threads α) (x : α) : t.sender = .offering x → Step t (t.offer x)
  | settle (t : Threads α) : t.sender = .settling → Step t t.settle
  | close (t : Threads α) :
    t.sender = .idle → Step t { t with channel := t.channel.close, sender := .leaving }
  | leave (t : Threads α) :
    t.sender = .leaving → Step t { t with sender := .gone, receiver := wakeReceiver t.receiver }
  | beginReceive (t : Threads α) :
    t.receiver = .idle → Step t { t with receiver := .receiving }
  | receive (t : Threads α) : t.receiver = .receiving → Step t t.receive
  | cancel (t : Threads α) (thenGo : Bool) :
    t.receiver = .idle →
      Step t { t with channel := t.channel.cancel, receiver := .cancelling thenGo }
  | cancelled (t : Threads α) (thenGo : Bool) :
    t.receiver = .cancelling thenGo →
      Step t
        { t with receiver := if thenGo then .gone else .idle, sender := wakeSender t.sender }
  /-- A sleeping thread wakes up although nobody told it to. -/
  | wakeSender (t : Threads α) : Step t { t with sender := wakeSender t.sender }
  | wakeReceiver (t : Threads α) : Step t { t with receiver := wakeReceiver t.receiver }

/-- The states that both threads can come to, in whatever order they take their steps. -/
inductive Reachable : Threads α → Prop where
  | start : Reachable {}
  | step {t u : Threads α} : Reachable t → Step t u → Reachable u

end Threads

end SourceSplice.Handoff
