import Messaging.Double

/-!
# The shortest decimal of a floating-point number

A floating-point number is written with the fewest significant digits that still read back as the
number; among decimals of that many digits it is the nearest one, and the even one of two equally
near.  All arithmetic is exact.
-/

namespace Messaging

/-- The number `digits * 10 ^ exponent`. -/
structure Decimal where
  digits : Nat
  exponent : Int
  deriving DecidableEq, Repr

/-- Writes a decimal: `12.5`, `100.0` and `0.001` with a point, `1e16` and `1.5e-7` with an
exponent. -/
def Decimal.text (d : Decimal) : String :=
  let ds := Nat.toDigits 10 d.digits
  let point : Int := ds.length + d.exponent
  let chars : List Char :=
    if 0 ≤ d.exponent ∧ point ≤ 16 then
      ds ++ List.replicate d.exponent.toNat '0' ++ ['.', '0']
    else if 0 < point ∧ point ≤ 16 then
      ds.take point.toNat ++ '.' :: ds.drop point.toNat
    else if -5 < point ∧ point ≤ 0 then
      '0' :: '.' :: List.replicate (-point).toNat '0' ++ ds
    else
      let mantissa :=
        match ds with
        | first :: second :: rest => first :: '.' :: second :: rest
        | short => short
      mantissa ++ 'e' :: (toString (point - 1)).toList
  String.ofList chars

namespace Double

/-- The reals that round to a positive number, in units of the common denominator: from `low` to
`high` around `value`, the ends included where the significand is even. -/
structure Neighbourhood where
  low : Nat
  value : Nat
  high : Nat
  denominator : Nat
  closed : Bool

/-- The neighbourhood of a positive number.  Half a unit of the last place lies on each side, but a
quarter below a power of two, where the numbers lie closer together. -/
def neighbourhood (x : Double) : Neighbourhood :=
  let m := x.significand
  let below := if x.fraction = 0 && 1 < exponentField x.bits then 1 else 2
  let e := x.exponent - 2
  let up := Nat.pow 2 e.toNat
  ⟨(4 * m - below) * up, 4 * m * up, (4 * m + 2) * up, Nat.pow 2 (-e).toNat, m % 2 = 0⟩

namespace Neighbourhood

/-- The same reals in units that make multiples of `10 ^ k` integers. -/
def onGrid (n : Neighbourhood) (k : Int) : Neighbourhood :=
  let finer := Nat.pow 10 (-k).toNat
  { n with
    low := n.low * finer
    value := n.value * finer
    high := n.high * finer
    denominator := n.denominator * Nat.pow 10 k.toNat }

/-- Whether an integer multiple of the denominator lies in the neighbourhood. -/
def holds (n : Neighbourhood) (i : Nat) : Bool :=
  if n.closed then n.low ≤ i * n.denominator && i * n.denominator ≤ n.high
  else n.low < i * n.denominator && i * n.denominator < n.high

/-- The better one of the two neighbours of the value on the grid that lie in the neighbourhood. -/
def nearest? (n : Neighbourhood) : Option Nat :=
  let i := n.value / n.denominator
  match 0 < i && n.holds i, n.holds (i + 1) with
  | true, true =>
    let twice := 2 * n.value
    let middle := (2 * i + 1) * n.denominator
    if twice < middle || (twice = middle && i % 2 = 0) then some i else some (i + 1)
  | true, false => some i
  | false, true => some (i + 1)
  | false, false => none

/-- Looks for a decimal on the grid of `10 ^ k` and then on finer ones. -/
def search (n : Neighbourhood) : Nat → Int → Decimal
  | 0, k => ⟨(n.onGrid k).value / (n.onGrid k).denominator, k⟩
  | fuel + 1, k =>
    match (n.onGrid k).nearest? with
    | some i => ⟨i, k⟩
    | none => search n fuel (k - 1)

end Neighbourhood

/-- The number of decimal digits. -/
def digitCount (n : Nat) : Nat := (Nat.toDigits 10 n).length

/-- The shortest decimal of a positive number.  The search starts at a power of ten above the number
and stops after at most seventeen significant digits. -/
def shortest (x : Double) : Decimal :=
  let n := x.neighbourhood
  let top : Int :=
    if n.denominator ≤ n.value then digitCount (n.value / n.denominator)
    else 1 - (digitCount (n.denominator / n.value) : Int)
  n.search 20 (top + 1)

/-- The text of a number. -/
def text (x : Double) : String :=
  (if x.negative then "-" else "") ++ if x.isZero then "0.0" else x.shortest.text

end Double

end Messaging
