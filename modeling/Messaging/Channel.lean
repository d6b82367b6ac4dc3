import Messaging.Broker

/-!
# Channels

A channel is where messages can be sent: a queue of the broker, or a router, which passes each
message on to a list of other channels in order.  A router stops at the first channel that rejects
the message and reports its answer, unless it ignores rejections; then it tries all channels and
counts those that accept.
-/

namespace Messaging

/-- A destination of messages. -/
inductive Channel where
  /-- A queue of the broker. -/
  | queue (id : QueueId)
  /-- A router with a name, over its recipients. -/
  | router (name : String) (ignoring : Bool) (recipients : List Channel)

/-- Why a router fails. -/
inductive RouterError where
  /-- A router without recipients. -/
  | noRecipients
  /-- A recipient rejected the message. -/
  | sendFailed (channel : String) (outcome : Outcome)
  deriving DecidableEq, Repr

/-- The wording of a router error. -/
def RouterError.message : RouterError → String
  | .noRecipients => "A non-empty recipient list is required"
  | .sendFailed channel outcome =>
    "Failed to send to recipient " ++ channel ++ ": " ++ outcome.name

/-- The name of a channel. -/
def Channel.name (b : Broker) : Channel → String
  | .queue id =>
    match b.queues[id]? with
    | some q => q.name
    | none => ""
  | .router name .. => name

/-- What a channel answers when a router failed or succeeded. -/
def RouterError.outcome : Except RouterError Nat → Outcome
  | .ok _ => .sent
  | .error (.sendFailed _ outcome) => outcome
  | .error .noRecipients => .closed

mutual

/-- Sends a message to a channel. -/
def Channel.send (m : Message) : Channel → Broker → Outcome × Broker
  | .queue id, b => b.offer id m
  | .router _ ignoring recipients, b =>
    let (result, b) := Channel.sendAll m ignoring 0 recipients b
    (RouterError.outcome result, b)

/-- Sends a message to channels in order, after `delivered` others accepted it. -/
def Channel.sendAll (m : Message) (ignoring : Bool) (delivered : Nat) :
    List Channel → Broker → Except RouterError Nat × Broker
  | [], b => (.ok delivered, b)
  | channel :: rest, b =>
    match channel.send m b with
    | (.sent, b) => Channel.sendAll m ignoring (delivered + 1) rest b
    | (outcome, b) =>
      if ignoring then Channel.sendAll m ignoring delivered rest b
      else (.error (.sendFailed (channel.name b) outcome), b)

end

mutual

/-- The queues at the ends of a channel, from left to right. -/
def Channel.queueIds : Channel → List QueueId
  | .queue id => [id]
  | .router _ _ recipients => Channel.allQueueIds recipients

/-- The queues at the ends of channels, from left to right. -/
def Channel.allQueueIds : List Channel → List QueueId
  | [] => []
  | channel :: rest => channel.queueIds ++ Channel.allQueueIds rest

end

/-- A router: a name and the channels to which it passes each message. -/
structure Router where
  name : String
  recipients : List Channel
  /-- Whether channels that reject a message are passed over. -/
  ignoring : Bool := false

namespace Router

/-- A router over at least one channel. -/
def create (name : String) (recipients : List Channel) (ignoring : Bool) :
    Except RouterError Router :=
  if recipients.isEmpty then .error .noRecipients else .ok { name, recipients, ignoring }

/-- The router as a channel. -/
def channel (r : Router) : Channel := .router r.name r.ignoring r.recipients

/-- Passes a message on and counts the recipients that accepted it. -/
def route (r : Router) (m : Message) (b : Broker) : Except RouterError Nat × Broker :=
  Channel.sendAll m r.ignoring 0 r.recipients b

end Router

end Messaging
