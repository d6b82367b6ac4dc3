import Messaging.Signature.Descriptor
import Messaging.Binder.Slot

/-!
# Binders

A binder gives each parameter of a signature its slot, once and for all, or says why the signature
leaves a choice open.

Candidates for the payload contest it as soon as there are two of them: then those that can hold all
headers take the headers instead.  What is left may be one parameter for the payload or one for the
message, not more, and one parameter for all headers.
-/

namespace Messaging

/-- The slots of a handler's parameters. -/
structure Binder where
  /-- The name of the handler. -/
  handler : String
  descriptors : List Descriptor
  /-- The slot of each parameter, in order. -/
  slots : List Slot
  /-- The position of the parameter that takes the payload. -/
  payloadSlot : Option Nat
  /-- The position of the parameter that takes all headers. -/
  bulkSlot : Option Nat
  /-- The position of the parameter that takes the message. -/
  envelopeSlot : Option Nat

namespace Binder

/-- Whether more than one parameter could take the payload. -/
def contested (ds : List Descriptor) : Bool := 1 < (ds.filter Descriptor.isCandidate).length

/-- Whether a candidate gives the payload up for the headers. -/
def yields (ds : List Descriptor) (d : Descriptor) : Bool :=
  d.isCandidate && contested ds && d.kind.holdsHeaders

/-- The parameters that could take the payload after those that yield are gone. -/
def kept (ds : List Descriptor) : List Descriptor :=
  ds.filter fun d ↦ d.isCandidate && !yields ds d

/-- The parameters bound to the message. -/
def envelopes (ds : List Descriptor) : List Descriptor := ds.filter Descriptor.isEnvelope

/-- The parameters bound to all headers, because they are marked for them or yield. -/
def bulk (ds : List Descriptor) : List Descriptor := ds.filter fun d ↦ d.isBulk || yields ds d

/-- The position of the first descriptor. -/
def position? (ds : List Descriptor) : Option Nat := ds.head?.map Descriptor.index

/-- The slot of a parameter, where the positions for the headers and the message are known. -/
def slotOf (bulkSlot envelopeSlot : Option Nat) (d : Descriptor) : Slot :=
  match d.header? with
  | some (key, required) => .header key required
  | none =>
    if bulkSlot = some d.index then .headers (d.kind = .properties)
    else if envelopeSlot = some d.index then .envelope
    else .payload

/-- The binder of a handler with these parameters. -/
def ofDescriptors (handler : String) (ds : List Descriptor) : Except SignatureError Binder :=
  if 1 < (envelopes ds).length then
    .error (.multipleEnvelopes handler ((envelopes ds).map Descriptor.index))
  else if 1 < (kept ds).length + (envelopes ds).length then
    .error (.ambiguousPayload handler ((kept ds ++ envelopes ds).map Descriptor.label))
  else if 1 < (bulk ds).length then
    .error (.multipleBulkHeaders handler ((bulk ds).map Descriptor.index))
  else
    .ok {
      handler := handler
      descriptors := ds
      slots := ds.map (slotOf (position? (bulk ds)) (position? (envelopes ds)))
      payloadSlot := position? (kept ds)
      bulkSlot := position? (bulk ds)
      envelopeSlot := position? (envelopes ds) }

/-- The binder of a signature. -/
def ofSignature (s : Signature) : Except SignatureError Binder :=
  match s.descriptors with
  | .error e => .error e
  | .ok ds => ofDescriptors s.name ds

/-- The number of parameters. -/
def parameterCount (b : Binder) : Nat := b.slots.length

/-- The arguments of the handler for a message: all of them, or the first error. -/
def arguments (b : Binder) (m : Message) : Except BindingError (List Argument) :=
  Slot.arguments m b.slots

end Binder

end Messaging
