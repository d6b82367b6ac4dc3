/-!
# Hexadecimal digits
-/

namespace Messaging.Text

/-- The value of a hexadecimal digit. -/
def hexDigit? (c : Char) : Option Nat :=
  if '0' ≤ c ∧ c ≤ '9' then some (c.toNat - 48)
  else if 'a' ≤ c ∧ c ≤ 'f' then some (c.toNat - 87)
  else if 'A' ≤ c ∧ c ≤ 'F' then some (c.toNat - 55)
  else none

/-- The number of a list of hexadecimal digits, behind a number read from the digits before them. -/
def hexValue? (sofar : Nat) : List Char → Option Nat
  | [] => some sofar
  | c :: rest =>
    match hexDigit? c with
    | some d => hexValue? (sofar * 16 + d) rest
    | none => none

/-- The last `count` hexadecimal digits of a number, in lower case. -/
def hexDigits : Nat → Nat → List Char
  | 0, _ => []
  | count + 1, n => hexDigits count (n / 16) ++ [Nat.digitChar (n % 16)]

end Messaging.Text
