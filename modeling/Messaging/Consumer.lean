import Messaging.Endpoint
import Messaging.Settings

/-!
# Consumers

A consumer takes messages from a queue and gives each to an endpoint.  Where the endpoint fails, an
error message about the failure is offered to the consumer's error channel, if it has one; the
failure stops nothing.
-/

namespace Messaging

/-- A queue, the endpoint for its messages, and the schedule on which it is polled. -/
structure Consumer where
  input : QueueId
  endpoint : Endpoint
  settings : PollerSettings
  /-- Where error messages go. -/
  errors : Option Channel := none

namespace Consumer

/-- The header of an error message that holds the identity of the message that failed. -/
def failedMessageId : String := "failed_message_id"

/-- The draft of the message about a failure.  It has the headers of the message that failed, and
its identity. -/
def errorDraft (c : Consumer) (failed : Message) (error : EndpointError) : Draft :=
  ((Draft.ofPayload (.record [("error", .string error.message),
    ("handler", .string c.endpoint.name)])).copy failed.headers.entries).set
      failedMessageId (.string failed.id.text)

/-- Offers a message about a failure to the error channel; its answer does not matter. -/
def forwardError (c : Consumer) (failed : Message) (error : EndpointError) (b : Broker) : Broker :=
  match c.errors with
  | none => b
  | some channel =>
    match (c.errorDraft failed error).build b.stamp with
    | .error _ => b.issue
    | .ok m => (channel.send m b.issue).2

/-- Handles a message that was received. -/
def process (c : Consumer) (m : Message) (b : Broker) : Broker :=
  match c.endpoint.handle m b with
  | (.ok _, b) => b
  | (.error e, b) => c.forwardError m e b

/-- Whether a poll cycle that took so many messages may take no more. -/
def atLimit (c : Consumer) (count : Nat) : Bool :=
  match c.settings.limit with
  | some limit => limit ≤ count
  | none => false

end Consumer

end Messaging
