/-!
# Mailboxes

A mailbox carries messages from one sender to one receiver in the order in which
they were sent. Beside the messages under way its two sides share a list of labels:
the sender adds the label of what it sent, and the receiver strikes the oldest one
for what it received. Once the receiver is gone nothing is accepted any more; what
was under way is lost, and its labels stay listed. Once the sender is gone what is
left can still be received.
-/

namespace PhoneAudio

/-- A mailbox between a sender and a receiver. -/
structure Mailbox (α : Type) where
  /-- The messages under way, oldest first. -/
  queue : List α := []
  /-- The labels of the messages that were not received yet, oldest first. -/
  labels : List String := []
  hasSender : Bool := true
  hasReceiver : Bool := true
deriving DecidableEq

namespace Mailbox

variable {α : Type}

/-- What a receiver finds. -/
inductive Receipt (α : Type) where
  | message (message : α)
  /-- Nothing to receive for now. -/
  | empty
  /-- Nothing to receive, now or later. -/
  | finished
  /-- The receiver is gone. -/
  | noReceiver
deriving DecidableEq

/-- Sends a message, if there is a sender to send it and a receiver to read it. -/
def send (label : α → String) (box : Mailbox α) (message : α) : Mailbox α :=
  if box.hasSender && box.hasReceiver then
    { box with queue := box.queue ++ [message], labels := box.labels ++ [label message] }
  else box

/-- Receives the oldest message under way and strikes the oldest label. -/
def receive (box : Mailbox α) : Mailbox α × Receipt α :=
  if !box.hasReceiver then (box, .noReceiver)
  else
    match box.queue with
    -- what was sent before the sender went is still delivered
    | message :: rest => ({ box with queue := rest, labels := box.labels.tail }, .message message)
    | [] => (box, if box.hasSender then .empty else .finished)

/-- Whatever is under way when the receiver goes is lost. -/
def dropReceiver (box : Mailbox α) : Mailbox α :=
  { box with queue := [], hasReceiver := false }

def dropSender (box : Mailbox α) : Mailbox α := { box with hasSender := false }

/-- The labels of the unread messages, as the sender sees them; a sender that is
gone sees none. -/
def pending? (box : Mailbox α) : Option (List String) :=
  if box.hasSender then some box.labels else none

/-- What can be done with a mailbox. -/
inductive Operation (α : Type) where
  | send (message : α)
  | receive
  | dropReceiver
  | dropSender

def perform (label : α → String) (box : Mailbox α) :
    Operation α → Mailbox α × Option (Receipt α)
  | .send message => (box.send label message, none)
  | .receive => (box.receive.1, some box.receive.2)
  | .dropReceiver => (box.dropReceiver, none)
  | .dropSender => (box.dropSender, none)

end Mailbox

end PhoneAudio
