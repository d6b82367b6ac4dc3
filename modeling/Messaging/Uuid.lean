import Messaging.Text.Hexadecimal

/-!
# Identities

A message is identified by a number of 128 bits.  It is written as thirty-two hexadecimal digits in
five groups joined by hyphens; it is read in that form, without any hyphen, with braces around it or
behind `urn:uuid:`, with digits in either case.
-/

namespace Messaging

/-- An identity of 128 bits. -/
structure Uuid where
  bits : BitVec 128
  deriving DecidableEq, Repr

namespace Uuid

/-- The first identity that is given to a new message. -/
def first : BitVec 128 := 0x5a3e1f709c424b68a1d7000000000000#128

/-- The identity of the new message that comes after `n` others. -/
def issued (n : Nat) : Uuid := ⟨first + BitVec.ofNat 128 n⟩

/-- The characters of an identity: groups of 8, 4, 4, 4 and 12 digits. -/
def chars (u : Uuid) : List Char :=
  let ds := Text.hexDigits 32 u.bits.toNat
  ds.take 8 ++ '-' :: (ds.drop 8).take 4 ++ '-' :: (ds.drop 12).take 4 ++
    '-' :: (ds.drop 16).take 4 ++ '-' :: ds.drop 20

/-- The text of an identity. -/
def text (u : Uuid) : String := String.ofList u.chars

/-- The identity of thirty-two digits. -/
def ofDigits? (ds : List Char) : Option Uuid :=
  if ds.length = 32 then (Text.hexValue? 0 ds).map fun n ↦ ⟨BitVec.ofNat 128 n⟩ else none

/-- The identity of five groups of digits joined by hyphens. -/
def ofGroups? (cs : List Char) : Option Uuid :=
  if cs.length = 36 ∧ cs[8]? = some '-' ∧ cs[13]? = some '-' ∧ cs[18]? = some '-' ∧
      cs[23]? = some '-' then
    ofDigits? (cs.take 8 ++ (cs.drop 9).take 4 ++ (cs.drop 14).take 4 ++ (cs.drop 19).take 4 ++
      cs.drop 24)
  else none

/-- What may stand before the groups of an identity. -/
def scheme : List Char := "urn:uuid:".toList

/-- The identity of a list of characters in one of the four forms. -/
def ofChars? (cs : List Char) : Option Uuid :=
  if cs.length = 32 then ofDigits? cs
  else if cs.length = 36 then ofGroups? cs
  else if cs.length = 38 ∧ cs.head? = some '\x7b' ∧ cs.getLast? = some '\x7d' then
    ofGroups? cs.tail.dropLast
  else if cs.length = 45 ∧ cs.take 9 = scheme then ofGroups? (cs.drop 9)
  else none

/-- The identity of a text. -/
def ofText? (s : String) : Option Uuid := ofChars? s.toList

end Uuid

end Messaging
