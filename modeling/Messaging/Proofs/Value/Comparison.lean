import Messaging.Value

/-!
# The comparison of values

Values are compared part by part, and the comparison tells any two values apart that are not equal,
with one exception: it takes the two floating-point zeros for one, wherever in a value they stand.
So two values are the same if and only if they become equal when every zero in them is made a
positive one.  In particular the comparison is an equivalence.
-/

namespace Messaging

/-! ## Numbers -/

namespace Double

/-- The positive zero. -/
def zero : Double := ⟨0, by decide⟩

/-- The number, where the negative zero becomes the positive one. -/
def canonical (x : Double) : Double := if x.isZero = true then zero else x

theorem isZero_zero : zero.isZero = true := by decide

theorem beq_iff {x y : Double} : (x == y) = true ↔ x.canonical = y.canonical := by
  have hsame : (x == y) = true ↔ x = y ∨ x.isZero = true ∧ y.isZero = true := by
    show sameNumber x y = true ↔ _
    rw [sameNumber, Bool.or_eq_true_iff, decide_eq_true_iff, Bool.and_eq_true_iff, mk.injEq]
  rw [hsame, canonical, canonical]
  by_cases hx : x.isZero = true
  · by_cases hy : y.isZero = true
    · rw [if_pos hx, if_pos hy]
      exact iff_of_true (.inr ⟨hx, hy⟩) rfl
    · rw [if_pos hx, if_neg hy]
      constructor
      · rintro (rfl | ⟨-, hy'⟩)
        · exact (hy hx).elim
        · exact (hy hy').elim
      · rintro rfl
        exact (hy isZero_zero).elim
  · rw [if_neg hx]
    by_cases hy : y.isZero = true
    · rw [if_pos hy]
      constructor
      · rintro (rfl | ⟨hx', -⟩)
        · exact (hx hy).elim
        · exact (hx hx').elim
      · rintro rfl
        exact (hx isZero_zero).elim
    · rw [if_neg hy, or_iff_left fun h ↦ hx h.1]

end Double

/-! ## Values -/

namespace Value

mutual

/-- The value with positive zeros only. -/
def canonical : Value → Value
  | float x => float x.canonical
  | array items => array (canonicalItems items)
  | object fields => object (canonicalFields fields)
  | v => v

/-- The values with positive zeros only. -/
def canonicalItems : List Value → List Value
  | [] => []
  | v :: l => canonical v :: canonicalItems l

/-- The fields, whose values have positive zeros only. -/
def canonicalFields : List (String × Value) → List (String × Value)
  | [] => []
  | (k, v) :: f => (k, canonical v) :: canonicalFields f

end

mutual

theorem same_iff : ∀ {v w : Value}, same v w = true ↔ canonical v = canonical w
  | null, w => by cases w <;> simp [same, canonical]
  | bool a, w => by cases w <;> simp [same, canonical]
  | int i, w => by cases w <;> simp [same, canonical]
  | float x, w => by cases w <;> simp [same, canonical, Double.beq_iff]
  | string s, w => by cases w <;> simp [same, canonical]
  | array l, w => by
    cases w with
    | array m => rw [same, canonical, canonical, array.injEq, sameItems_iff]
    | null | bool | int | float | string | object => simp [same, canonical]
  | object f, w => by
    cases w with
    | object g => rw [same, canonical, canonical, object.injEq, sameFields_iff]
    | null | bool | int | float | string | array => simp [same, canonical]

theorem sameItems_iff : ∀ {l m : List Value},
    sameItems l m = true ↔ canonicalItems l = canonicalItems m
  | [], [] => by simp [sameItems]
  | [], _ :: _ => by simp [sameItems, canonicalItems]
  | _ :: _, [] => by simp [sameItems, canonicalItems]
  | v :: l, w :: m => by
    rw [sameItems, canonicalItems, canonicalItems, List.cons.injEq, Bool.and_eq_true_iff,
      same_iff, sameItems_iff]

theorem sameFields_iff : ∀ {f g : List (String × Value)},
    sameFields f g = true ↔ canonicalFields f = canonicalFields g
  | [], [] => by simp [sameFields]
  | [], _ :: _ => by simp [sameFields, canonicalFields]
  | _ :: _, [] => by simp [sameFields, canonicalFields]
  | (j, v) :: f, (k, w) :: g => by
    rw [sameFields, canonicalFields, canonicalFields, List.cons.injEq, Prod.mk.injEq,
      Bool.and_eq_true_iff, Bool.and_eq_true_iff, beq_iff_eq, same_iff, sameFields_iff]

end

/-- Values are the same if and only if they differ at most in the signs of zeros. -/
theorem beq_iff {v w : Value} : (v == w) = true ↔ v.canonical = w.canonical := same_iff

instance : EquivBEq Value where
  rfl := beq_iff.mpr rfl
  symm := fun h ↦ beq_iff.mpr (beq_iff.mp h).symm
  trans := fun h h' ↦ beq_iff.mpr ((beq_iff.mp h).trans (beq_iff.mp h'))

theorem canonical_eq_string_iff {v : Value} {s : String} :
    v.canonical = string s ↔ v = string s := by
  cases v <;> simp [canonical]

end Value

end Messaging
