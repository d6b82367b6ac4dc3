import Messaging.Signature
import Messaging.Text.Blank
import Messaging.Text.Quoted

/-!
# Descriptors

A descriptor says what one parameter is bound to as far as the parameter alone can tell: to a
header, to all headers or to the message.  If it is bound to none of these, it is a candidate for
the payload.

Repeating a marker changes nothing; two different markers contradict each other.  Without a marker a
parameter is bound to the message if it is declared as one, and is a candidate otherwise.
-/

namespace Messaging

/-- Why a signature cannot be bound. -/
inductive SignatureError where
  /-- More than one parameter could take the payload or the message. -/
  | ambiguousPayload (handler : String) (candidates : List String)
  /-- A header is to be bound but nothing names it. -/
  | unnamedHeader (handler : String) (index : Nat)
  /-- A parameter of this type cannot hold all headers. -/
  | bulkHeadersType (handler : String) (index : Nat) (found : Kind)
  /-- More than one parameter is bound to all headers. -/
  | multipleBulkHeaders (handler : String) (indices : List Nat)
  /-- More than one parameter is bound to the message. -/
  | multipleEnvelopes (handler : String) (indices : List Nat)
  /-- A parameter has two different markers. -/
  | conflictingMarkers (handler : String) (index : Nat)
  deriving DecidableEq, Repr

/-- The wording of a signature error. -/
def SignatureError.message : SignatureError → String
  | .ambiguousPayload handler candidates =>
    "Handler " ++ handler ++ ": could not find at most one message or payload parameter, " ++
      "ended up with candidates " ++ Text.bracketed (candidates.map Text.quoted)
  | .unnamedHeader handler index =>
    "Handler " ++ handler ++ ": parameter " ++ toString index ++
      " has a header marker without a name and no declared name to fall back on"
  | .bulkHeadersType handler index found =>
    "Handler " ++ handler ++ ": parameter " ++ toString index ++
      " is marked for bulk headers but is of type " ++ found.name ++
      ", expected map or properties"
  | .multipleBulkHeaders handler indices =>
    "Handler " ++ handler ++ ": more than one bulk headers parameter at " ++
      Text.bracketed (indices.map toString)
  | .multipleEnvelopes handler indices =>
    "Handler " ++ handler ++ ": more than one message parameter at " ++
      Text.bracketed (indices.map toString)
  | .conflictingMarkers handler index =>
    "Handler " ++ handler ++ ": parameter " ++ toString index ++ " carries conflicting markers"

/-- What is known of one parameter. -/
structure Descriptor where
  /-- The position of the parameter. -/
  index : Nat
  kind : Kind
  /-- The declared name without white space around it, if something is left of it. -/
  name : Option String
  /-- The key of the header that the parameter is bound to, and whether that has to be there. -/
  header? : Option (String × Bool) := none
  /-- Whether the parameter is marked for all headers. -/
  isBulk : Bool := false
  /-- Whether the parameter is bound to the message. -/
  isEnvelope : Bool := false
  deriving DecidableEq, Repr

namespace Descriptor

/-- Whether the parameter could take the payload. -/
def isCandidate (d : Descriptor) : Bool := d.header?.isNone && !d.isBulk && !d.isEnvelope

/-- A short text that points at the parameter, such as `#1 order: value`. -/
def label (d : Descriptor) : String :=
  match d.name with
  | some name => "#" ++ toString d.index ++ " " ++ name ++ ": " ++ d.kind.name
  | none => "#" ++ toString d.index ++ ": " ++ d.kind.name

/-- The descriptor of a parameter that is bound to nothing. -/
def unbound (index : Nat) (p : Parameter) : Descriptor where
  index := index
  kind := p.kind
  name := Text.named? p.name

/-- The descriptor of a parameter with this marker. -/
def marked (handler : String) (index : Nat) (p : Parameter) :
    Marker → Except SignatureError Descriptor
  | .header name required =>
    match (Text.named? name).or (Text.named? p.name) with
    | some key => .ok { unbound index p with header? := some (key, required) }
    | none => .error (.unnamedHeader handler index)
  | .headers =>
    if p.kind.holdsHeaders then .ok { unbound index p with isBulk := true }
    else .error (.bulkHeadersType handler index p.kind)
  | .envelope => .ok { unbound index p with isEnvelope := true }

/-- The descriptor of a parameter without markers. -/
def unmarked (index : Nat) (p : Parameter) : Descriptor :=
  { unbound index p with isEnvelope := p.kind = .message }

/-- The descriptor of a parameter. -/
def ofParameter (handler : String) (index : Nat) (p : Parameter) :
    Except SignatureError Descriptor :=
  match p.markers with
  | [] => .ok (unmarked index p)
  | marker :: others =>
    if others.all (· = marker) then marked handler index p marker
    else .error (.conflictingMarkers handler index)

end Descriptor

/-- The descriptors of parameters whose positions start at `index`. -/
def describeFrom (handler : String) (index : Nat) :
    List Parameter → Except SignatureError (List Descriptor)
  | [] => .ok []
  | p :: rest =>
    match Descriptor.ofParameter handler index p with
    | .error e => .error e
    | .ok d =>
      match describeFrom handler (index + 1) rest with
      | .error e => .error e
      | .ok ds => .ok (d :: ds)

/-- The descriptors of all parameters, or the error of the first one that has none. -/
def Signature.descriptors (s : Signature) : Except SignatureError (List Descriptor) :=
  describeFrom s.name 0 s.parameters

end Messaging
