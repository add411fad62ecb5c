import Sift.Number.Rounding

/-!
# Shortest decimal digits

**Rule.** A finite positive number is written with the fewest significant digits that read back
as the same number; among decimals of that many digits the one nearest to the number is taken,
and `Tie` says which of two equally near ones.

A decimal reads back as the number at position `m` when it lies between the midpoints to the two
neighbouring positions, the midpoints themselves included exactly if `m` is even. The digit
counts are tried in ascending order, and for each only the two decimals next to the number.
Seventeen digits always suffice; the exact expansion stands behind them so that the search is
total.
-/

namespace Sift

namespace Number

/-- A decimal `digits * 10 ^ exponent`. -/
structure Decimal where
  digits : Nat
  exponent : Int
  deriving DecidableEq

/-- Which of two equally near decimals is taken. -/
inductive Tie where
  | up
  | even

/-- The decimals that read back as the number at position `m` make up the interval between
`low / scale` and `high / scale`; the number itself is `value / scale`. -/
structure Catchment where
  low : Nat
  value : Nat
  high : Nat
  scale : Nat
  closed : Bool

/-- The decimals that read back as the number at position `m`. -/
def catchmentAt (m : Nat) : Catchment :=
  let s := scaled m
  ⟨scaled (m - 1) + s, 2 * s, s + scaled (m + 1), 2 * unit, m % 2 = 0⟩

/-- Whether `candidate / scale` lies in the interval. -/
def Catchment.holds (i : Catchment) (candidate : Nat) : Bool :=
  if i.closed then i.low ≤ candidate && candidate ≤ i.high
  else i.low < candidate && candidate < i.high

/-- The interval measured in units of `10 ^ e`. -/
def Catchment.inUnits (i : Catchment) (e : Int) : Catchment :=
  if 0 ≤ e then { i with scale := i.scale * Nat.pow 10 e.toNat }
  else
    let p := Nat.pow 10 (-e).toNat
    { i with low := i.low * p, value := i.value * p, high := i.high * p }

/-- The number of decimal digits of `n`, counted up to `fuel`. -/
def digitCount : (fuel n : Nat) → Nat
  | 0, _ => 0
  | fuel + 1, n => if n < 10 then 1 else digitCount fuel (n / 10) + 1

/-- How often `num` must be multiplied by ten to reach `den`, counted up to `fuel`. -/
def leadingZeros : (fuel num den : Nat) → Nat
  | 0, _, _ => 0
  | fuel + 1, num, den => if den ≤ num then 0 else leadingZeros fuel (10 * num) den + 1

/-- The least `k` with `num / den < 10 ^ k`, for a positive quotient of the binary64 range. -/
def pointPosition (num den : Nat) : Int :=
  if den ≤ num then digitCount 400 (num / den) else 1 - (leadingZeros 400 num den : Int)

/-- The decimal that is taken with unit `10 ^ e`, if one of the two next to the number reads
back. -/
def candidate? (tie : Tie) (i : Catchment) (e : Int) : Option Decimal :=
  let j := i.inUnits e
  let d := j.value / j.scale
  let below := j.holds (d * j.scale)
  let above := j.holds ((d + 1) * j.scale)
  let twice := 2 * (j.value % j.scale)
  let takeAbove := j.scale < twice || (j.scale == twice &&
    match tie with
    | .up => true
    | .even => d % 2 == 1)
  if below && above then some ⟨if takeAbove then d + 1 else d, e⟩
  else if below then some ⟨d, e⟩
  else if above then some ⟨d + 1, e⟩
  else none

/-- Moves trailing zeros of the digits into the exponent. -/
def trimZeros : (fuel : Nat) → Decimal → Decimal
  | 0, d => d
  | fuel + 1, d =>
    if d.digits ≠ 0 ∧ d.digits % 10 = 0 then trimZeros fuel ⟨d.digits / 10, d.exponent + 1⟩
    else d

/-- The shortest decimal of the positive finite number at position `m`. -/
def shortest (tie : Tie) (m : Nat) : Decimal :=
  let i := catchmentAt m
  let k := pointPosition i.value i.scale
  let found := (List.range 17).findSome? fun (n : Nat) =>
    candidate? tie i (k - 1 - n)
  trimZeros 20 (found.getD ⟨i.value * Nat.pow 5 1075, -1075⟩)

end Number

end Sift
