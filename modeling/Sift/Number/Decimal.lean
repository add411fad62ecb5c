import Sift.Number.Rounding

/-!
# Reading decimal numbers

**Rule.** A decimal text denotes `significand * 10 ^ exponent` exactly, and reads as the nearest
binary64 number; one past the largest finite number reads as infinity.
-/

namespace Sift

namespace Number

/-- The value of a decimal digit; any other character counts as `0`. -/
def digitValue (c : Char) : Nat :=
  if c.isDigit then c.toNat - '0'.toNat else 0

/-- The natural number written by a run of decimal digits. -/
def natOfDigits (ds : List Char) : Nat :=
  ds.foldl (fun n c => 10 * n + digitValue c) 0

/-- The exact quotient `significand * 10 ^ exponent` as numerator and denominator. Exponents far
outside every format are cut off, where the quotient rounds to zero or to infinity anyway. -/
def decimalRatio (significand : Nat) (exponent : Int) : Nat × Nat :=
  if significand = 0 then (0, 1)
  else if 400 ≤ exponent then (Nat.pow 10 400, 1)
  else if exponent + (Nat.log2 significand : Int) / 3 + 1 < -400 then (0, 1)
  else if 0 ≤ exponent then (significand * Nat.pow 10 exponent.toNat, 1)
  else (significand, Nat.pow 10 (-exponent).toNat)

/-- The number nearest to `significand * 10 ^ exponent`. -/
def ofDecimal (negative : Bool) (significand : Nat) (exponent : Int) : Number :=
  let (num, den) := decimalRatio significand exponent
  ofRatio negative num den

/-- The number written by digits before and after a decimal point. -/
def ofDigits (negative : Bool) (whole fraction : List Char) : Number :=
  ofDecimal negative (natOfDigits (whole ++ fraction)) (-(fraction.length : Int))

/-- A decimal text taken apart. -/
structure DecimalText where
  negative : Bool
  significand : Nat
  exponent : Int

/-- What a decimal text stands for. -/
inductive Literal where
  | nan
  | infinite (negative : Bool)
  | decimal (text : DecimalText)

/-- Takes a sign off the front of a text: `true` for a minus. -/
def takeSign : List Char → Bool × List Char
  | '-' :: r => (true, r)
  | '+' :: r => (false, r)
  | r => (false, r)

/-- Reads an exponent part `e5`, `E-3` up to the end of the text. -/
def exponentPart? : List Char → Option Int
  | [] => some 0
  | c :: r =>
    if c = 'e' ∨ c = 'E' then
      let (negative, ds) := takeSign r
      if ds ≠ [] ∧ ds.all Char.isDigit then
        some (if negative then -(natOfDigits ds : Int) else natOfDigits ds)
      else none
    else none

/-- Reads an unsigned decimal text: digits, a fraction, an exponent, with at least one digit on
one side of the point. -/
def unsignedDecimal? (negative : Bool) (text : List Char) : Option DecimalText :=
  let whole := text.takeWhile Char.isDigit
  let afterWhole := text.dropWhile Char.isDigit
  let (fraction, rest) := match afterWhole with
    | '.' :: r => (r.takeWhile Char.isDigit, r.dropWhile Char.isDigit)
    | r => ([], r)
  if whole ++ fraction = [] then none
  else (exponentPart? rest).map fun e =>
    ⟨negative, natOfDigits (whole ++ fraction), e - fraction.length⟩

/-- Reads a signed decimal text, or one of the words for infinity and not-a-number. -/
def literal? (text : String) : Option Literal :=
  let (negative, r) := takeSign text.toList
  let word := String.ofList (r.map Char.toLower)
  if word = "inf" ∨ word = "infinity" then some (.infinite negative)
  else if word = "nan" then some .nan
  else (unsignedDecimal? negative r).map .decimal

/-- Reads a number text. -/
def ofText? (text : String) : Option Number :=
  (literal? text).map fun
    | .nan => nan
    | .infinite negative => ofMagnitude negative infinity
    | .decimal d => ofDecimal d.negative d.significand d.exponent

/-- Reads a number text, rounding to binary32. -/
def ofSingleText? (text : String) : Option Number :=
  (literal? text).map fun
    | .nan => nan
    | .infinite negative => ofMagnitude negative infinity
    | .decimal d =>
      let (num, den) := decimalRatio d.significand d.exponent
      ofSingleRatio d.negative num den

end Number

end Sift
