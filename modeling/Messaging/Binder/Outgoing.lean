import Messaging.Binder

/-!
# Outgoing messages

The way back from arguments to a message, and from what a handler returned to its reply.

Header arguments become headers, a later one over an earlier one; supplied headers are added where
no argument gives them.  A message argument is taken as it is and only gains headers that it lacks:
it stays the same message if there is none to gain.  A reply inherits the headers of its request,
below those that the handler set itself.
-/

namespace Messaging

/-- What the arguments seen so far give to the outgoing message. -/
structure Gathered where
  payload : Option Value
  envelope : Option Message
  headers : Headers

namespace Gathered

/-- Nothing yet. -/
def none : Gathered := ⟨.none, .none, Dictionary.empty⟩

/-- Takes in the argument of a slot. -/
def take (g : Gathered) (index : Nat) (slot : Slot) (argument : Argument) :
    Except BindingError Gathered :=
  match slot, argument with
  | .payload, .payload value =>
    if value.isNull then .error .missingPayloadForOutbound
    else .ok { g with payload := some value }
  | .header key required, .header value =>
    match value.filter fun v ↦ !v.isNull with
    | some value => .ok { g with headers := g.headers.insert key value }
    | .none => if required then .error (.missingHeader key) else .ok g
  | .headers _, .headers h => .ok { g with headers := g.headers.insertAll h.entries }
  | .headers _, .properties p => .ok { g with headers := g.headers.insertAll p.asHeaders.entries }
  | .envelope, .message m => .ok { g with envelope := some m }
  | slot, argument => .error (.argumentMismatch index slot.label argument.kind)

/-- Takes in the arguments of slots whose positions start at `index`. -/
def takeAll (g : Gathered) (index : Nat) :
    List Slot → List Argument → Except BindingError Gathered
  | slot :: slots, argument :: arguments =>
    match g.take index slot argument with
    | .error e => .error e
    | .ok g => g.takeAll (index + 1) slots arguments
  | _, _ => .ok g

/-- The message of what was gathered and the headers supplied besides. -/
def finish (g : Gathered) (supplied : Headers) (stamp : Stamp) : Except BindingError Message :=
  let headers := g.headers.insertAllIfAbsent supplied.entries
  match g.envelope, g.payload with
  | some m, _ =>
    if headers.isEmpty then .ok m
    else
      (((Draft.ofMessage m).copyIfAbsent headers.entries).build stamp).mapError
        fun _ ↦ .missingPayloadForOutbound
  | .none, some payload =>
    (((Draft.ofPayload payload).copy headers.entries).build stamp).mapError
      fun _ ↦ .missingPayloadForOutbound
  | .none, .none => .error .missingPayloadForOutbound

end Gathered

/-- The message of a full list of arguments.  The stamp is used if the message is a new one. -/
def Binder.message (b : Binder) (arguments : List Argument) (supplied : Headers) (stamp : Stamp) :
    Except BindingError Message :=
  if arguments.length ≠ b.slots.length then
    .error (.argumentCount b.slots.length arguments.length)
  else
    match Gathered.none.takeAll 0 b.slots arguments with
    | .error e => .error e
    | .ok g => g.finish supplied stamp

/-- What a handler gives back. -/
inductive Returned where
  /-- A payload for the reply. -/
  | payload (value : Value)
  /-- A whole message. -/
  | message (message : Message)

/-- The draft of a reply. -/
def Returned.draft (request : Message) : Returned → Draft
  | .payload value => (Draft.ofPayload value).copy request.headers.entries
  | .message m => (Draft.ofMessage m).copyIfAbsent request.headers.entries

/-- The reply to a request: a new message even where the handler returned one. -/
def Message.reply (request : Message) (returned : Option Returned) (stamp : Stamp) :
    Except BindingError Message :=
  match returned with
  | some r => ((r.draft request).build stamp).mapError fun _ ↦ .missingPayloadForOutbound
  | none => .error .missingPayloadForOutbound

end Messaging
