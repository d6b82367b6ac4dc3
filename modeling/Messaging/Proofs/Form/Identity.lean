import Mathlib.Tactic.Ring
import Messaging.Uuid

/-!
# Identities are read as they are written

Hexadecimal digits are read as the number that they write, and the text of an identity is taken
apart at its hyphens into the groups of which it was put together.
-/

namespace Messaging

namespace Text

theorem length_hexDigits (count n : Nat) : (hexDigits count n).length = count := by
  induction count generalizing n with
  | zero => rfl
  | succ count ih => rw [hexDigits, List.length_append, ih, List.length_singleton]

theorem hexValue?_append (sofar : Nat) (l m : List Char) :
    hexValue? sofar (l ++ m) = (hexValue? sofar l).bind fun n ↦ hexValue? n m := by
  induction l generalizing sofar with
  | nil => rfl
  | cons c l ih =>
    rw [List.cons_append, hexValue?, hexValue?]
    cases hexDigit? c with
    | none => rfl
    | some d => exact ih _

theorem hexDigit?_digitChar {d : Nat} (h : d < 16) : hexDigit? (Nat.digitChar d) = some d := by
  have hall : ∀ d < 16, hexDigit? (Nat.digitChar d) = some d := by decide
  exact hall d h

/-- The digits of a number are read as what of the number they can hold. -/
theorem hexValue?_hexDigits (sofar count n : Nat) :
    hexValue? sofar (hexDigits count n) = some (sofar * 16 ^ count + n % 16 ^ count) := by
  induction count generalizing n with
  | zero => simp [hexDigits, hexValue?, Nat.mod_one]
  | succ count ih =>
    have hdigit := hexDigit?_digitChar (Nat.mod_lt n (show 0 < 16 by decide))
    rw [hexDigits, hexValue?_append, ih, Option.bind_some, hexValue?, hdigit]
    have hsplit : n % 16 ^ (count + 1) = n % 16 + 16 * (n / 16 % 16 ^ count) := by
      rw [Nat.pow_succ, Nat.mul_comm, Nat.mod_mul]
    rw [hsplit, Nat.pow_succ]
    simp only [hexValue?, Option.some.injEq]
    ring

end Text

namespace Uuid

/-- The groups of an identity are found again between the hyphens. -/
theorem ofGroups?_append {a b c d e : List Char} (ha : a.length = 8) (hb : b.length = 4)
    (hc : c.length = 4) (hd : d.length = 4) (he : e.length = 12) :
    ofGroups? (a ++ '-' :: b ++ '-' :: c ++ '-' :: d ++ '-' :: e) =
      ofDigits? (a ++ b ++ c ++ d ++ e) := by
  simp [ofGroups?, List.drop_append, List.drop_of_length_le, ha, hb, hc, hd, he]

/-- The text of an identity is read as the identity. -/
theorem ofText?_text (u : Uuid) : ofText? u.text = some u := by
  have hlen : (Text.hexDigits 32 u.bits.toNat).length = 32 := Text.length_hexDigits ..
  have hchars : u.chars.length = 36 := by simp [chars, hlen]
  have hjoin : ∀ ds : List Char, ds.take 8 ++ (ds.drop 8).take 4 ++ (ds.drop 12).take 4 ++
      (ds.drop 16).take 4 ++ ds.drop 20 = ds := by
    intro ds
    rw [← List.take_add, ← List.take_add, ← List.take_add, List.take_append_drop]
  have hgroups : ofGroups? u.chars = ofDigits? (Text.hexDigits 32 u.bits.toNat) := by
    refine (ofGroups?_append ?_ ?_ ?_ ?_ ?_).trans (congrArg ofDigits? (hjoin _))
    all_goals simp [hlen]
  have hbits : u.bits.toNat % 16 ^ 32 = u.bits.toNat := Nat.mod_eq_of_lt u.bits.isLt
  rw [ofText?, text, String.toList_ofList, ofChars?, if_neg (by rw [hchars]; decide), if_pos hchars,
    hgroups, ofDigits?, if_pos hlen, Text.hexValue?_hexDigits, Nat.zero_mul, Nat.zero_add, hbits,
    Option.map_some, BitVec.ofNat_toNat, BitVec.setWidth_eq]

end Uuid

end Messaging
