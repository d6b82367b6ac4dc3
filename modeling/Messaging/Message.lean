import Messaging.Headers
import Messaging.Timestamp
import Messaging.Uuid

/-!
# Messages

A message is a payload with a set of headers, an identity and the instant at which it was built.  A
message does not change: whoever wants a different one drafts a new message, perhaps from the old
one, and the draft becomes a message under a new stamp.
-/

namespace Messaging

/-- A payload with headers. -/
structure Message where
  id : Uuid
  timestamp : Timestamp
  payload : Value
  headers : Headers

/-- What makes a new message different from all others: its identity and its time. -/
structure Stamp where
  id : Uuid
  time : Timestamp
  deriving DecidableEq

/-- Why a draft does not become a message. -/
inductive MessageError where
  /-- The payload is null. -/
  | nullPayload
  deriving DecidableEq, Repr

/-- The wording of a message error. -/
def MessageError.message : MessageError → String
  | .nullPayload => "Message payload must not be null"

namespace Message

/-- Whether two messages agree in every part. -/
def same (a b : Message) : Bool :=
  a.id == b.id && a.timestamp == b.timestamp && a.payload == b.payload && a.headers == b.headers

instance : BEq Message := ⟨same⟩

/-- The value of a header. -/
def header? (m : Message) (key : String) : Option Value := m.headers.get? key

/-- The value of a header, where null counts as missing. -/
def bound? (m : Message) (key : String) : Option Value :=
  (m.header? key).filter fun v ↦ !v.isNull

theorem bound?_eq_some_iff {m : Message} {key : String} {v : Value} :
    m.bound? key = some v ↔ m.header? key = some v ∧ v.isNull = false := by
  simp [bound?, Option.filter_eq_some_iff]

end Message

/-- A message in the making. -/
structure Draft where
  payload : Value
  headers : Headers

namespace Draft

/-- Starts from a payload, without headers. -/
def ofPayload (payload : Value) : Draft := ⟨payload, Dictionary.empty⟩

/-- Starts from the payload and the headers of a message. -/
def ofMessage (m : Message) : Draft := ⟨m.payload, m.headers⟩

/-- Sets a header, over an earlier value. -/
def set (d : Draft) (key : String) (value : Value) : Draft :=
  { d with headers := d.headers.insert key value }

/-- Removes a header; nothing happens where it is missing. -/
def remove (d : Draft) (key : String) : Draft :=
  { d with headers := d.headers.erase key }

/-- Copies headers, over earlier values. -/
def copy (d : Draft) (headers : List (String × Value)) : Draft :=
  { d with headers := d.headers.insertAll headers }

/-- Copies the headers that are still missing. -/
def copyIfAbsent (d : Draft) (headers : List (String × Value)) : Draft :=
  { d with headers := d.headers.insertAllIfAbsent headers }

/-- Copies headers in one of the two ways. -/
def copyWith (d : Draft) (headers : List (String × Value)) (overwrite : Bool) : Draft :=
  if overwrite then d.copy headers else d.copyIfAbsent headers

/-- The message of the draft, under a stamp of its own. -/
def build (d : Draft) (stamp : Stamp) : Except MessageError Message :=
  if d.payload.isNull then .error .nullPayload
  else .ok ⟨stamp.id, stamp.time, d.payload, d.headers⟩

@[simp] theorem payload_set (d : Draft) (k : String) (v : Value) :
    (d.set k v).payload = d.payload := rfl

@[simp] theorem payload_remove (d : Draft) (k : String) : (d.remove k).payload = d.payload := rfl

@[simp] theorem payload_copy (d : Draft) (l : List (String × Value)) :
    (d.copy l).payload = d.payload := rfl

@[simp] theorem payload_copyIfAbsent (d : Draft) (l : List (String × Value)) :
    (d.copyIfAbsent l).payload = d.payload := rfl

theorem build_of_isNull_eq_false {d : Draft} (h : d.payload.isNull = false) (stamp : Stamp) :
    d.build stamp = .ok ⟨stamp.id, stamp.time, d.payload, d.headers⟩ := by
  simp [build, h]

/-- A draft becomes a message if and only if its payload is not null, whatever the other case is
reported as. -/
theorem mapError_build_eq_ok_iff {ε : Type} {d : Draft} {stamp : Stamp} {f : MessageError → ε}
    {m : Message} : (d.build stamp).mapError f = .ok m ↔
      d.payload.isNull = false ∧ m = ⟨stamp.id, stamp.time, d.payload, d.headers⟩ := by
  cases hnull : d.payload.isNull with
  | true =>
    have herror : d.build stamp = .error .nullPayload := by simp [build, hnull]
    rw [herror]
    constructor
    · intro h
      cases h
    · rintro ⟨h, -⟩
      cases h
  | false =>
    rw [build_of_isNull_eq_false hnull]
    constructor
    · intro h
      cases h
      exact ⟨rfl, rfl⟩
    · rintro ⟨-, rfl⟩
      rfl

end Draft

/-- The message of a payload without headers. -/
def Message.ofPayload (payload : Value) (stamp : Stamp) : Except MessageError Message :=
  (Draft.ofPayload payload).build stamp

end Messaging
