import Messaging.Message

/-!
# Slots and arguments

The binder of a handler gives each parameter a slot, which says what of a message its argument
holds.  An argument is what fills a slot when the handler is invoked.

A header that is null counts as missing when it is bound on its own; among all headers it is kept,
and among all texts it does not occur.
-/

namespace Messaging

/-- What of a message a parameter gets. -/
inductive Slot where
  /-- The payload. -/
  | payload
  /-- The message itself. -/
  | envelope
  /-- One header. -/
  | header (key : String) (required : Bool)
  /-- All headers, or only those that are texts. -/
  | headers (stringsOnly : Bool)
  deriving DecidableEq, Repr

/-- One argument of a handler. -/
inductive Argument where
  /-- The payload. -/
  | payload (value : Value)
  /-- One header; an optional one may be absent. -/
  | header (value : Option Value)
  /-- All headers. -/
  | headers (headers : Headers)
  /-- All headers that are texts. -/
  | properties (properties : Properties)
  /-- The message itself. -/
  | message (message : Message)

/-- Why a message cannot be bound to arguments, or arguments to a message. -/
inductive BindingError where
  /-- A header that has to be there is missing or null. -/
  | missingHeader (key : String)
  /-- The payload of the incoming message is null. -/
  | missingPayload
  /-- Nothing gives the outgoing message a payload. -/
  | missingPayloadForOutbound
  /-- There are not as many arguments as parameters. -/
  | argumentCount (expected actual : Nat)
  /-- An argument is of the wrong kind for its slot. -/
  | argumentMismatch (index : Nat) (expected actual : String)
  deriving DecidableEq, Repr

/-- The wording of a binding error. -/
def BindingError.message : BindingError → String
  | .missingHeader key => "Required header '" ++ key ++ "' not available"
  | .missingPayload => "Message payload must not be null"
  | .missingPayloadForOutbound => "No parameter available for message or payload"
  | .argumentCount expected actual =>
    "Wrong number of arguments: expected " ++ toString expected ++ ", received " ++ toString actual
  | .argumentMismatch index expected actual =>
    "Argument " ++ toString index ++ " does not fit its slot, expected " ++ expected ++
      ", got " ++ actual

namespace Slot

/-- A short name of what a slot takes. -/
def label : Slot → String
  | payload => "payload"
  | envelope => "message"
  | header .. => "header"
  | headers _ => "headers"

/-- The argument that a message gives to a slot. -/
def argument (m : Message) : Slot → Except BindingError Argument
  | payload => if m.payload.isNull then .error .missingPayload else .ok (.payload m.payload)
  | envelope => .ok (.message m)
  | header key required =>
    match m.bound? key with
    | some value => .ok (.header (some value))
    | none => if required then .error (.missingHeader key) else .ok (.header none)
  | headers true => .ok (.properties m.headers.stringValues)
  | headers false => .ok (.headers m.headers)

/-- The arguments that a message gives to a list of slots, or the error of the first slot that gets
none. -/
def arguments (m : Message) : List Slot → Except BindingError (List Argument)
  | [] => .ok []
  | slot :: rest =>
    match argument m slot with
    | .error e => .error e
    | .ok a =>
      match arguments m rest with
      | .error e => .error e
      | .ok as => .ok (a :: as)

theorem arguments_cons_eq_ok_iff {m : Message} {slot : Slot} {rest : List Slot}
    {args : List Argument} :
    arguments m (slot :: rest) = .ok args ↔
      ∃ a as, slot.argument m = .ok a ∧ arguments m rest = .ok as ∧ args = a :: as := by
  rw [arguments]
  cases slot.argument m with
  | error e =>
    constructor
    · intro h
      cases h
    · rintro ⟨_, _, h, -⟩
      cases h
  | ok a =>
    cases arguments m rest with
    | error e =>
      constructor
      · intro h
        cases h
      · rintro ⟨_, _, -, h, -⟩
        cases h
    | ok as =>
      constructor
      · intro h
        cases h
        exact ⟨a, as, rfl, rfl, rfl⟩
      · rintro ⟨_, _, ha, has, rfl⟩
        cases ha
        cases has
        rfl

theorem length_arguments {m : Message} {slots : List Slot} {args : List Argument}
    (h : arguments m slots = .ok args) : args.length = slots.length := by
  induction slots generalizing args with
  | nil =>
    cases h
    rfl
  | cons slot rest ih =>
    obtain ⟨a, as, -, has, rfl⟩ := arguments_cons_eq_ok_iff.mp h
    rw [List.length_cons, List.length_cons, ih has]

end Slot

namespace Argument

/-- A short name of the kind of an argument. -/
def kind : Argument → String
  | payload _ => "payload"
  | header _ => "header"
  | headers _ => "headers"
  | properties _ => "properties"
  | message _ => "message"

/-- The payload of a payload argument. -/
def payload? : Argument → Option Value
  | payload value => some value
  | _ => none

/-- The value of a header argument that is present. -/
def header? : Argument → Option Value
  | header value => value
  | _ => none

/-- The headers of an argument that holds all of them. -/
def headers? : Argument → Option Headers
  | headers h => some h
  | _ => none

/-- The properties of an argument that holds all texts. -/
def properties? : Argument → Option Properties
  | properties p => some p
  | _ => none

/-- The message of a message argument. -/
def message? : Argument → Option Message
  | message m => some m
  | _ => none

end Argument

end Messaging
