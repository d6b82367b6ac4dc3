import Messaging.Value

/-!
# Header sets

The headers of a message: a dictionary of values.  A header whose value is null is present, which is
different from a missing one.
-/

namespace Messaging

/-- The headers of a message. -/
abbrev Headers := Dictionary Value

/-- A set of headers that are all texts. -/
abbrev Properties := Dictionary String

namespace Dictionary

/-- The entries whose values are texts. -/
def stringValues (h : Headers) : Properties := h.filterMap Value.string?

/-- The properties as header values. -/
def asHeaders (p : Properties) : Headers := p.map Value.string

theorem get?_stringValues (h : Headers) (k : String) :
    h.stringValues.get? k = (h.get? k).bind Value.string? := get?_filterMap _ h k

theorem get?_asHeaders (p : Properties) (k : String) :
    p.asHeaders.get? k = (p.get? k).map Value.string := get?_map _ p k

/-- Whether the header set has a header with this value. -/
def holds (h : Headers) (key : String) (value : Value) : Bool :=
  match h.get? key with
  | some present => present == value
  | none => false

/-- Whether every header of `other` is present here with the same value. -/
def containsAll (h other : Headers) : Bool := other.entries.all fun (k, v) ↦ h.holds k v

end Dictionary

end Messaging
