import Messaging.Value

/-!
# Documents

What a text in JSON notation says before anyone decides what to make of it.  A document keeps what
a value has no room for: objects list their fields as they are written, also two of one name, and a
part that is well formed but denotes no value (a number out of range, half of a surrogate pair,
brackets nested too deeply) is `unreadable`.  Whoever reads a document may pass over such a part,
but cannot make a value of it.
-/

namespace Messaging

/-- What a text in JSON notation says. -/
inductive Document where
  | null
  | bool (b : Bool)
  | int (i : Int)
  | float (x : Double)
  | string (s : String)
  | array (items : List Document)
  | object (fields : List (String × Document))
  | unreadable

namespace Document

instance : Inhabited Document := ⟨null⟩

/-! ### Documents and values -/

mutual

/-- The value of a document; of two fields of one name the later one counts. -/
def value? : Document → Option Value
  | null => some .null
  | bool b => some (.bool b)
  | int i => some (.int i)
  | float x => some (.float x)
  | string s => some (.string s)
  | array items => (values? items).map .array
  | object fields => (fieldValues? fields).map .record
  | unreadable => none

/-- The values of a list of documents. -/
def values? : List Document → Option (List Value)
  | [] => some []
  | d :: rest => do return (← value? d) :: (← values? rest)

/-- The values of a list of fields. -/
def fieldValues? : List (String × Document) → Option (List (String × Value))
  | [] => some []
  | (name, d) :: rest => do return (name, ← value? d) :: (← fieldValues? rest)

end

end Document

mutual

/-- The document that says just this value. -/
def Value.document : Value → Document
  | .null => .null
  | .bool b => .bool b
  | .int i => .int i
  | .float x => .float x
  | .string s => .string s
  | .array items => .array (Value.documents items)
  | .object fields => .object (Value.fieldDocuments fields)

/-- The documents of a list of values. -/
def Value.documents : List Value → List Document
  | [] => []
  | v :: rest => v.document :: Value.documents rest

/-- The documents of a list of fields. -/
def Value.fieldDocuments : List (String × Value) → List (String × Document)
  | [] => []
  | (name, v) :: rest => (name, v.document) :: Value.fieldDocuments rest

end

namespace Document

/-! ### Reading records -/

/-- The text of a document that is a text. -/
def string? : Document → Option String
  | string s => some s
  | _ => none

/-- The truth value of a document that is one. -/
def bool? : Document → Option Bool
  | bool b => some b
  | _ => none

/-- The items of a document that is an array. -/
def items? : Document → Option (List Document)
  | array items => some items
  | _ => none

/-- The documents given to a name in a list of fields. -/
def given (name : String) (fields : List (String × Document)) : List Document :=
  (fields.filter fun f ↦ f.1 == name).map Prod.snd

/-- What a list of fields gives to each of some names: nothing or one document; it is an error to
give two.  Fields of other names are passed over. -/
def fieldsOf? (names : List String) (fields : List (String × Document)) :
    Option (List (Option Document)) :=
  names.mapM fun name ↦
    match given name fields with
    | [] => some none
    | [d] => some (some d)
    | _ => none

/-- The fields of a record that declares these names.  A record is written as an object or as an
array of its fields in the declared order, from which fields at the end may be left out. -/
def record? (names : List String) : Document → Option (List (Option Document))
  | object fields => fieldsOf? names fields
  | array items =>
    if items.length ≤ names.length then
      some (items.map some ++ List.replicate (names.length - items.length) none)
    else none
  | _ => none

/-- A field that may be left out: `absent` stands for it then, and otherwise it has to be readable.
-/
def orElse {α : Type} (field : Option Document) (absent : α) (read : Document → Option α) :
    Option α :=
  match field with
  | none => some absent
  | some d => read d

/-- An optional text: null counts as absent. -/
def optionalString? : Document → Option (Option String)
  | null => some none
  | string s => some (some s)
  | _ => none

/-- The name of a case without data: a text, or an object of that one name with null. -/
def caseName? : Document → Option String
  | string s => some s
  | object [(name, null)] => some name
  | _ => none

end Document

end Messaging
