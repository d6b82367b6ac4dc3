import Messaging.Signature
import Messaging.Value.Document

/-!
# The written form of signatures

Signatures, parameters, markers and declared types as values, and what documents are read as one.

A record is read from an object, in which unknown fields are passed over, or from an array of its
fields in order.  A marker carries its case in the field `marker`, or as the first item of an array.
Written, a parameter leaves out an absent name and an empty list of markers, and a marker leaves out
an absent name.
-/

namespace Messaging

namespace Kind

/-- The written form of a declared type. -/
def form (k : Kind) : Value := .string k.name

/-- Reads a declared type. -/
def ofDocument? (d : Document) : Option Kind := d.caseName?.bind ofName?

end Kind

/-- An optional text field: it is left out where it is absent. -/
def optionalField (name : String) : Option String → List (String × Value)
  | some s => [(name, .string s)]
  | none => []

namespace Marker

/-- The written form of a marker. -/
def form : Marker → Value
  | header name required =>
    .record ([("marker", .string "header")] ++ optionalField "name" name ++
      [("required", .bool required)])
  | headers => .record [("marker", .string "headers")]
  | envelope => .record [("marker", .string "envelope")]

/-- Whether a document can stand for the data of a case that has none. -/
def isBare : Document → Bool
  | .object _ => true
  | .array items => items.isEmpty
  | _ => false

/-- Reads a marker whose case is known from the rest of its document. -/
def ofCase? (case : String) (rest : Document) : Option Marker :=
  if case = "header" then
    match rest.record? ["name", "required"] with
    | some [name, required] => do
      return header (← Document.orElse name none Document.optionalString?)
        (← Document.orElse required true Document.bool?)
    | _ => none
  else if case = "headers" then if isBare rest then some headers else none
  else if case = "envelope" then if isBare rest then some envelope else none
  else none

/-- Reads a marker.  All of its parts have to denote values, also those that are passed over. -/
def ofDocument? : Document → Option Marker
  | .object fields =>
    match Document.given "marker" fields with
    | [case] =>
      let rest : Document := .object (fields.filter fun f ↦ f.1 != "marker")
      if rest.value?.isSome then case.string?.bind (ofCase? · rest) else none
    | _ => none
  | .array (case :: items) =>
    let rest : Document := .array items
    if rest.value?.isSome then case.string?.bind (ofCase? · rest) else none
  | _ => none

end Marker

namespace Parameter

/-- The written form of a parameter. -/
def form (p : Parameter) : Value :=
  .record (optionalField "name" p.name ++ [("declared_type", p.kind.form)] ++
    match p.markers with
    | [] => []
    | markers => [("markers", .array (markers.map Marker.form))])

/-- Reads a parameter. -/
def ofDocument? (d : Document) : Option Parameter :=
  match d.record? ["name", "declared_type", "markers"] with
  | some [name, some kind, markers] => do
    return {
      name := ← Document.orElse name none Document.optionalString?
      kind := ← Kind.ofDocument? kind
      markers := ← Document.orElse markers [] fun d ↦ d.items?.bind (·.mapM Marker.ofDocument?) }
  | _ => none

end Parameter

namespace Signature

/-- The written form of a signature. -/
def form (s : Signature) : Value :=
  .record [("name", .string s.name), ("parameters", .array (s.parameters.map Parameter.form))]

/-- Reads a signature. -/
def ofDocument? (d : Document) : Option Signature :=
  match d.record? ["name", "parameters"] with
  | some [some name, parameters] => do
    return {
      name := ← name.string?
      parameters := ←
        Document.orElse parameters [] fun d ↦ d.items?.bind (·.mapM Parameter.ofDocument?) }
  | _ => none

end Signature

end Messaging
