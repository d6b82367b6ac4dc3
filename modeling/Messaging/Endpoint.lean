import Messaging.Binder.Outgoing
import Messaging.Channel

/-!
# Endpoints

An endpoint invokes a handler for each message that it is given.  It binds the message, invokes the
handler with the arguments, makes a reply of what the handler returns, and sends the reply to its
output channel if it has one.
-/

namespace Messaging

/-- Why a handler failed: the reason in the widest terms first, then its causes. -/
structure Failure where
  reasons : List String
  deriving DecidableEq, Repr

/-- The reason with all its causes. -/
def Failure.text (f : Failure) : String := String.intercalate ": " f.reasons

/-- What a handler does with its arguments: it fails, returns nothing, or returns a payload or a
message.  The stamp is for a message of its own, if it builds one. -/
abbrev Handler := List Argument → Stamp → Except Failure (Option Returned)

/-- Why an endpoint could not handle a message. -/
inductive EndpointError where
  /-- The message could not be bound, or no reply could be made. -/
  | binding (handler : String) (source : BindingError)
  /-- The handler failed. -/
  | handler (handler : String) (reason : String)
  /-- The output channel rejected the reply. -/
  | replyNotSent (handler channel : String) (outcome : Outcome)
  deriving DecidableEq, Repr

/-- The wording of an endpoint error. -/
def EndpointError.message : EndpointError → String
  | .binding name source => "Binding failed for handler " ++ name ++ ": " ++ source.message
  | .handler name reason => "Handler " ++ name ++ " failed: " ++ reason
  | .replyNotSent name channel outcome =>
    "Reply from handler " ++ name ++ " not sent to " ++ channel ++ ": " ++ outcome.name

/-- A handler with its binder and its place in the system. -/
structure Endpoint where
  /-- The name under which the journal knows the endpoint. -/
  label : String
  binder : Binder
  handler : Handler
  /-- Where replies go. -/
  output : Option Channel := none
  /-- The place among endpoints that share an input; lower ones come first. -/
  order : Int := 0

namespace Endpoint

/-- An endpoint for a signature, if the signature can be bound. -/
def create (label : String) (signature : Signature) (handler : Handler) :
    Except SignatureError Endpoint :=
  (Binder.ofSignature signature).map fun binder ↦ { label, binder, handler }

/-- The name of the handler. -/
def name (e : Endpoint) : String := e.binder.handler

/-- Sends a reply to the output channel, if there is one. -/
def sendReply (e : Endpoint) (reply : Message) (b : Broker) :
    Except EndpointError (Option Message) × Broker :=
  match e.output with
  | none => (.ok (some reply), b)
  | some channel =>
    let (outcome, b) := channel.send reply b
    if outcome = .sent then (.ok (some reply), b)
    else (.error (.replyNotSent e.name (channel.name b) outcome), b)

/-- Makes a reply of what the handler returned and sends it. -/
def reply (e : Endpoint) (request : Message) (returned : Returned) (b : Broker) :
    Except EndpointError (Option Message) × Broker :=
  match request.reply (some returned) b.stamp with
  | .error fault => (.error (.binding e.name fault), b.issue)
  | .ok reply => e.sendReply reply b.issue

/-- Handles a message: the reply, nothing if the handler returned nothing, or an error. -/
def handle (e : Endpoint) (request : Message) (b : Broker) :
    Except EndpointError (Option Message) × Broker :=
  match e.binder.arguments request with
  | .error fault => (.error (.binding e.name fault), b)
  | .ok arguments =>
    let b := b.record (.invoked e.label arguments)
    match e.handler arguments b.stamp with
    | .error failure => (.error (.handler e.name failure.text), b.issue)
    | .ok none => (.ok none, b.issue)
    | .ok (some returned) => e.reply request returned b.issue

/-- The endpoints by ascending order; those of one order stay as they are. -/
def sortByOrder (es : List Endpoint) : List Endpoint :=
  es.mergeSort fun a b ↦ decide (a.order ≤ b.order)

end Endpoint

end Messaging
