import Messaging.Value
import Messaging.Double.Shortest

/-!
# Writing JSON text

A value is written without white space.  Texts stand in double quotes; quotes, backslashes and
control characters in them are escaped, and all other characters stand for themselves.
-/

namespace Messaging

namespace Writer

/-- Two hexadecimal digits. -/
def twoHex (n : Nat) : List Char := [Nat.digitChar (n / 16 % 16), Nat.digitChar (n % 16)]

/-- How a character is written between quotes. -/
def char (c : Char) : List Char :=
  match c with
  | '"' => ['\\', '"']
  | '\\' => ['\\', '\\']
  | '\x08' => ['\\', 'b']
  | '\x0c' => ['\\', 'f']
  | '\n' => ['\\', 'n']
  | '\r' => ['\\', 'r']
  | '\t' => ['\\', 't']
  | c => if c.toNat < 0x20 then '\\' :: 'u' :: '0' :: '0' :: twoHex c.toNat else [c]

/-- A text in quotes. -/
def string (s : String) : String :=
  "\"" ++ String.ofList (s.toList.flatMap char) ++ "\""

end Writer

mutual

/-- The text of a value. -/
def Value.text : Value → String
  | .null => "null"
  | .bool b => if b then "true" else "false"
  | .int i => toString i
  | .float x => x.text
  | .string s => Writer.string s
  | .array items => "[" ++ String.intercalate "," (Value.itemTexts items) ++ "]"
  | .object fields => "\x7b" ++ String.intercalate "," (Value.fieldTexts fields) ++ "\x7d"

/-- The texts of the items of an array. -/
def Value.itemTexts : List Value → List String
  | [] => []
  | v :: rest => v.text :: Value.itemTexts rest

/-- The texts of the fields of an object. -/
def Value.fieldTexts : List (String × Value) → List String
  | [] => []
  | (name, v) :: rest => (Writer.string name ++ ":" ++ v.text) :: Value.fieldTexts rest

end

end Messaging
