import Messaging.Message
import Messaging.Outcome
import Messaging.Timestamp.Text
import Messaging.Value.Document

/-!
# The written form of messages

Messages, header sets and outcomes as values, and what documents are read as one.  A message that is
read keeps its identity and its time, and its payload may be null.
-/

namespace Messaging

/-- The written form of a header set. -/
def Dictionary.form (h : Headers) : Value := .ofDictionary h

/-- Reads a header set: of two headers of one name the later one counts. -/
def Headers.ofDocument? : Document → Option Headers
  | .object fields => (Document.fieldValues? fields).map Dictionary.ofList
  | _ => none

/-- Reads a set of texts. -/
def Properties.ofDocument? : Document → Option Properties
  | .object fields =>
    (fields.mapM fun (f : String × Document) ↦ f.2.string?.map (f.1, ·)).map Dictionary.ofList
  | _ => none

namespace Message

/-- The written form of a message. -/
def form (m : Message) : Value :=
  .record [("id", .string m.id.text), ("timestamp", .string m.timestamp.text),
    ("payload", m.payload), ("headers", m.headers.form)]

/-- Reads a message; only the headers may be left out. -/
def ofDocument? (d : Document) : Option Message :=
  match d.record? ["id", "timestamp", "payload", "headers"] with
  | some [some id, some timestamp, some payload, headers] => do
    return {
      id := ← id.string?.bind Uuid.ofText?
      timestamp := ← timestamp.string?.bind Timestamp.ofText?
      payload := ← payload.value?
      headers := ← Document.orElse headers Dictionary.empty Headers.ofDocument? }
  | _ => none

end Message

namespace Outcome

/-- The written form of an outcome. -/
def form (o : Outcome) : Value := .string o.name

/-- Reads an outcome. -/
def ofDocument? (d : Document) : Option Outcome := d.caseName?.bind ofName?

end Outcome

end Messaging
