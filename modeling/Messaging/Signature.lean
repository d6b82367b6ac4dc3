/-!
# Signatures

The signature of a handler: its name and its parameters in order, each with a declared type, perhaps
a name, and the markers that whoever describes the handler puts on it.
-/

namespace Messaging

/-- What a parameter is declared to hold.  Values are never checked against it; it only decides
which roles the parameter can play. -/
inductive Kind where
  /-- Any object. -/
  | value
  /-- A mapping from names to arbitrary values. -/
  | map
  /-- A record of texts. -/
  | properties
  /-- A whole message. -/
  | message
  deriving DecidableEq, Repr

namespace Kind

/-- The name of a declared type. -/
def name : Kind → String
  | value => "value"
  | map => "map"
  | properties => "properties"
  | message => "message"

/-- All declared types. -/
def all : List Kind := [value, map, properties, message]

/-- The declared type of a name. -/
def ofName? (s : String) : Option Kind := all.find? fun k ↦ k.name == s

/-- Whether a parameter of this type can hold a whole header set. -/
def holdsHeaders : Kind → Bool
  | map | properties => true
  | value | message => false

end Kind

/-- What a parameter is marked for. -/
inductive Marker where
  /-- One header, by its name or else by the name of the parameter. -/
  | header (name : Option String) (required : Bool)
  /-- All headers. -/
  | headers
  /-- The message itself. -/
  | envelope
  deriving DecidableEq, Repr

/-- A parameter as it is described. -/
structure Parameter where
  /-- The declared name, where there is one. -/
  name : Option String
  kind : Kind
  markers : List Marker := []
  deriving DecidableEq, Repr

namespace Parameter

/-- A parameter whose name is not known. -/
def unnamed (kind : Kind) : Parameter := ⟨none, kind, []⟩

/-- A parameter with a name. -/
def named (name : String) (kind : Kind) : Parameter := ⟨some name, kind, []⟩

/-- Puts one more marker on the parameter. -/
def mark (p : Parameter) (marker : Marker) : Parameter :=
  { p with markers := p.markers ++ [marker] }

/-- Marks the parameter for a header that has to be there. -/
def header (p : Parameter) (key : String) : Parameter := p.mark (.header (some key) true)

/-- Marks the parameter for a header that may be missing. -/
def optionalHeader (p : Parameter) (key : String) : Parameter :=
  p.mark (.header (some key) false)

/-- Marks the parameter for the header of its own name, which has to be there. -/
def headerByName (p : Parameter) : Parameter := p.mark (.header none true)

/-- Marks the parameter for all headers. -/
def headers (p : Parameter) : Parameter := p.mark .headers

/-- Marks the parameter for the message itself. -/
def envelope (p : Parameter) : Parameter := p.mark .envelope

end Parameter

/-- A handler's name and parameters. -/
structure Signature where
  name : String
  parameters : List Parameter := []
  deriving DecidableEq, Repr

/-- Appends a parameter. -/
def Signature.add (s : Signature) (p : Parameter) : Signature :=
  { s with parameters := s.parameters ++ [p] }

end Messaging
