import Messaging.Dictionary
import Messaging.Double

/-!
# Values

The data that payloads and headers are made of: null, truth values, integers, floating-point
numbers, texts, arrays, and objects with named fields.  Integers and floating-point numbers are
different values, even where they denote one number.
-/

namespace Messaging

/-- A piece of data. -/
inductive Value where
  | null
  | bool (b : Bool)
  | int (i : Int)
  | float (x : Double)
  | string (s : String)
  | array (items : List Value)
  | object (fields : List (String × Value))

namespace Value

instance : Inhabited Value := ⟨null⟩

/-! ### Comparison -/

mutual

/-- Whether two values are the same. -/
def same : Value → Value → Bool
  | null, null => true
  | bool a, bool b => a == b
  | int i, int j => i == j
  | float x, float y => x == y
  | string s, string t => s == t
  | array l, array m => sameItems l m
  | object f, object g => sameFields f g
  | _, _ => false

/-- Whether two lists hold the same values in the same order. -/
def sameItems : List Value → List Value → Bool
  | [], [] => true
  | a :: l, b :: m => same a b && sameItems l m
  | _, _ => false

/-- Whether two lists hold the same fields in the same order. -/
def sameFields : List (String × Value) → List (String × Value) → Bool
  | [], [] => true
  | (j, a) :: l, (k, b) :: m => j == k && same a b && sameFields l m
  | _, _ => false

end

instance : BEq Value := ⟨same⟩

/-! ### Parts of a value -/

/-- Whether the value is null. -/
def isNull : Value → Bool
  | null => true
  | _ => false

/-- The text of a text value. -/
def string? : Value → Option String
  | string s => some s
  | _ => none

/-- The value of a field of an object. -/
def field? (v : Value) (name : String) : Option Value :=
  match v with
  | object fields => Dictionary.find? name fields
  | _ => none

@[simp] theorem isNull_null : null.isNull = true := rfl

theorem isNull_eq_true_iff {v : Value} : v.isNull = true ↔ v = null := by
  cases v <;> simp [isNull]

@[simp] theorem string?_string (s : String) : (string s).string? = some s := rfl

theorem string?_eq_some_iff {v : Value} {s : String} : v.string? = some s ↔ v = string s := by
  cases v <;> simp [string?]

/-! ### Objects -/

/-- The object with these fields; of two fields of one name the later one counts. -/
def record (fields : List (String × Value)) : Value :=
  object (Dictionary.ofList fields).entries

/-- The object of a dictionary. -/
def ofDictionary (d : Dictionary Value) : Value := object d.entries

mutual

/-- Every object in the value lists its fields by ascending name. -/
def Ordered : Value → Prop
  | array items => OrderedItems items
  | object fields => fields.Pairwise (fun a b ↦ a.1 < b.1) ∧ OrderedFields fields
  | _ => True

/-- Every value of the list is ordered. -/
def OrderedItems : List Value → Prop
  | [] => True
  | v :: rest => Ordered v ∧ OrderedItems rest

/-- Every field of the list has an ordered value. -/
def OrderedFields : List (String × Value) → Prop
  | [] => True
  | (_, v) :: rest => Ordered v ∧ OrderedFields rest

end

end Value

end Messaging
