/-!
# Finite floating-point numbers

A finite binary floating-point number of 64 bits, held by its bits: one bit for the sign, eleven for
the exponent and fifty-two for the fraction.  Infinities and the values that are no numbers cannot
occur, so the comparison of numbers is an equivalence; it identifies the two zeros and nothing else.
-/

namespace Messaging

/-- One more than the largest value of the fraction field, which has fifty-two bits. -/
def fractionSize : Nat := 0x10000000000000

/-- The exponent field of the bits of a floating-point number. -/
def exponentField (bits : UInt64) : Nat := bits.toNat / fractionSize % 2048

/-- A finite floating-point number. -/
structure Double where
  /-- Sign, exponent field and fraction, from the highest bit to the lowest. -/
  bits : UInt64
  /-- The exponent field of all ones, which infinities carry, does not occur. -/
  finite : exponentField bits ≠ 2047
  deriving DecidableEq

namespace Double

/-- The number of a machine float, unless it is infinite or no number. -/
def ofFloat? (x : Float) : Option Double :=
  if h : exponentField x.toBits ≠ 2047 then some ⟨x.toBits, h⟩ else none

/-- Whether the sign bit is set. -/
def negative (x : Double) : Bool := 0x8000000000000000 ≤ x.bits.toNat

/-- The fraction field. -/
def fraction (x : Double) : Nat := x.bits.toNat % fractionSize

/-- Whether the number is one of the two zeros. -/
def isZero (x : Double) : Bool := x.bits.toNat % 0x8000000000000000 = 0

/-- The integer that is scaled by a power of two: a leading one is implied unless the exponent field
is zero. -/
def significand (x : Double) : Nat :=
  if exponentField x.bits = 0 then x.fraction else x.fraction + fractionSize

/-- The power of two that scales the significand. -/
def exponent (x : Double) : Int :=
  if exponentField x.bits = 0 then -1074 else (exponentField x.bits : Int) - 1075

/-- Whether the numbers are equal: the bits agree, or both are zero. -/
def sameNumber (x y : Double) : Bool := x.bits = y.bits || (x.isZero && y.isZero)

instance : BEq Double := ⟨sameNumber⟩

/-! ### From decimals -/

/-- The machine float nearest to a power of ten. -/
def powerOfTen (n : Nat) : Float := Float.ofScientific 1 false n

/-- Multiplies a machine float by a power of ten, with one rounding for each factor of at most
`10 ^ 308`; there is no result where it would be infinite. -/
def scale (x : Float) (exponent : Int) : Option Float :=
  if exponent.natAbs ≤ 308 then
    if 0 ≤ exponent then
      let product := x * powerOfTen exponent.natAbs
      if product.isInf then none else some product
    else some (x / powerOfTen exponent.natAbs)
  else if x == 0 then some x
  else if 0 ≤ exponent then none
  else scale (x / powerOfTen 308) (exponent + 308)
termination_by exponent.natAbs

/-- The number of a sign, a decimal significand and a power of ten: the significand is rounded first
and then scaled. -/
def ofDecimal? (negative : Bool) (significand : UInt64) (exponent : Int) : Option Double := do
  let x ← scale significand.toFloat exponent
  ofFloat? (if negative then -x else x)

end Double

end Messaging
