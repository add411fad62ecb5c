import Sift.Number.Basic

/-!
# Rounding to a floating-point format

**Rule.** A quotient of naturals rounds to the nearest number of the format, a tie to the one at
an even position, and what is past the last finite number becomes infinity.

`Format.round` works on positions: it scales the quotient so that the unit is the last place of
its binade, rounds to an integer, and adds the integer to the position where the binade starts.
A carry into the next binade needs no case of its own, because positions run on.
-/

namespace Sift

namespace Number

/-- The quotient `num / den` rounded to an integer, a tie to the even one. -/
def roundHalfEven (num den : Nat) : Nat :=
  let q := num / den
  let r := num % den
  if 2 * r < den then q
  else if den < 2 * r then q + 1
  else q + q % 2

/-- A binary floating-point format: the stored bits of its significand, the exponent of the
smallest positive number `2 ^ -scale`, and the position of infinity. -/
structure Format where
  fractionBits : Nat
  scale : Nat
  infinity : Nat

/-- The format with 64 bits. -/
def Format.binary64 : Format := ⟨52, 1074, Number.infinity⟩

/-- The format with 32 bits. -/
def Format.binary32 : Format := ⟨23, 149, 255 * Nat.pow 2 23⟩

/-- The position of `num / den` in a format, correctly rounded. -/
def Format.round (f : Format) (num den : Nat) : Nat :=
  let n := num * Nat.pow 2 f.scale
  let e := Nat.log2 (n / den) - f.fractionBits
  min f.infinity (e * Nat.pow 2 f.fractionBits + roundHalfEven n (den * Nat.pow 2 e))

/-- The number nearest to `num / den`, with a sign. -/
def ofRatio (negative : Bool) (num den : Nat) : Number :=
  ofMagnitude negative (Format.binary64.round num den)

/-- The number nearest to a natural number. -/
def ofNat (n : Nat) : Number := ofRatio false n 1

/-- The number nearest to an integer. -/
def ofInt (i : Int) : Number := ofRatio (i < 0) i.natAbs 1

/-- `2 ^ 149` times the value of the position `m` of a binary32 number. -/
def scaledSingle (m : Nat) : Nat :=
  let binade := Nat.pow 2 23
  if m < binade then m else (binade + m % binade) * Nat.pow 2 (m / binade - 1)

/-- The quotient rounded to binary32 first. Every binary32 number is a binary64 number, so the
second rounding only changes the format. -/
def ofSingleRatio (negative : Bool) (num den : Nat) : Number :=
  let m := Format.binary32.round num den
  if m = Format.binary32.infinity then ofMagnitude negative infinity
  else ofRatio negative (scaledSingle m) (Nat.pow 2 149)

/-- The product of two finite magnitudes, rounded once. -/
def mulMagnitude (a b : Nat) : Nat :=
  Format.binary64.round (scaled a * scaled b) (unit * unit)

/-- The quotient of two finite magnitudes, rounded once. -/
def divMagnitude (a b : Nat) : Nat :=
  Format.binary64.round (scaled a) (scaled b)

end Number

end Sift
