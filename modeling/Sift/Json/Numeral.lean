import Sift.Json.Basic
import Sift.Number.Decimal

/-!
# Reading JSON numbers

**Digits.** The significand is made of the digits that fit into 64 bits; digits beyond them only
count as powers of ten.

**Value.** A number with a fraction, with an exponent, or outside the integers of 64 bits is the
significand, rounded to binary64, times or divided by a power of ten, rounded again. A number
that comes out infinite is refused. Minus zero is a floating-point number.

**Failure.** A reader that fails returns the text behind the place of the failure, so that the
place can be named; what it looked at without reading it counts as read where the grammar asks
for one particular kind of character there.
-/

namespace Sift.Json

/-- The outcome of reading from the front of a text: what was read and the rest of the text, or
the text behind the place of a failure. -/
abbrev Outcome (α : Type) := Except (List Char) (α × List Char)

namespace Numeral

/-- The greatest significand. -/
def maxSignificand : Nat := UInt64.size - 1

/-- The greatest exponent that is told apart from larger ones. -/
def maxExponent : Nat := UInt32.size / 2 - 1

/-- Adds digits to a number as long as it does not exceed a limit, and counts them. -/
def accumulate (limit : Nat) : (value count : Nat) → List Char → Nat × Nat × List Char
  | value, count, [] => (value, count, [])
  | value, count, c :: r =>
    if c.isDigit then
      let next := 10 * value + Number.digitValue c
      if limit < next then (value, count, c :: r) else accumulate limit next (count + 1) r
    else (value, count, c :: r)

/-- Whether a digit stands at the front. -/
def startsWithDigit : List Char → Bool
  | c :: _ => c.isDigit
  | [] => false

/-- A power of ten, rounded to binary64. -/
def powerOfTen (k : Nat) : Nat := Number.Format.binary64.round (Nat.pow 10 k) 1

/-- Scales a magnitude by a power of ten in steps of at most `10 ^ 308`; `none` if the result is
infinite. -/
def scale : (fuel magnitude : Nat) → (exponent : Int) → Option Nat
  | 0, magnitude, _ => some magnitude
  | fuel + 1, magnitude, exponent =>
    if exponent.natAbs ≤ 308 then
      if 0 ≤ exponent then
        let product := Number.mulMagnitude magnitude (powerOfTen exponent.natAbs)
        if product = Number.infinity then none else some product
      else some (Number.divMagnitude magnitude (powerOfTen exponent.natAbs))
    else if magnitude = 0 then some 0
    else if 0 ≤ exponent then none
    else scale fuel (Number.divMagnitude magnitude (powerOfTen 308)) (exponent + 308)

/-- The number `significand * 10 ^ exponent`. The smallest significand is gone after four steps,
so more need not be taken. -/
def ofParts (negative : Bool) (significand : Nat) (exponent : Int) (rest : List Char) :
    Outcome Numeral :=
  match scale 5 (Number.Format.binary64.round significand 1) exponent with
  | some m => .ok (.float (Number.ofMagnitude negative m), rest)
  | none => .error rest

/-- Reads the digits of an exponent, the first of which must be there. -/
def exponentDigits (negative : Bool) (significand : Nat) (exponent : Int) (negativeExponent : Bool)
    (s : List Char) : Outcome Numeral :=
  match s with
  | [] => .error []
  | c :: r =>
    if !c.isDigit then .error r
    else
      let (n, _, rest) := accumulate maxExponent 0 0 s
      if startsWithDigit rest then
        if significand ≠ 0 ∧ !negativeExponent then .error (rest.drop 1)
        else .ok (.float (Number.ofMagnitude negative 0), rest.dropWhile Char.isDigit)
      else
        ofParts negative significand (if negativeExponent then exponent - n else exponent + n) rest

/-- Reads an exponent behind its letter. -/
def exponentPart (negative : Bool) (significand : Nat) (exponent : Int) (s : List Char) :
    Outcome Numeral :=
  match s with
  | '+' :: r => exponentDigits negative significand exponent false r
  | '-' :: r => exponentDigits negative significand exponent true r
  | r => exponentDigits negative significand exponent false r

/-- Reads an exponent if there is one. -/
def afterFraction (negative : Bool) (significand : Nat) (exponent : Int) (s : List Char) :
    Outcome Numeral :=
  match s with
  | c :: r =>
    if c = 'e' ∨ c = 'E' then exponentPart negative significand exponent r
    else ofParts negative significand exponent s
  | [] => ofParts negative significand exponent []

/-- Reads a fraction behind its point. -/
def fractionPart (negative : Bool) (significand : Nat) (exponent : Int) (s : List Char) :
    Outcome Numeral :=
  let (significand, used, rest) := accumulate maxSignificand significand 0 s
  if startsWithDigit rest then
    afterFraction negative significand (exponent - used) (rest.dropWhile Char.isDigit)
  else if used = 0 then .error (rest.drop 1)
  else afterFraction negative significand (exponent - used) rest

/-- An integer, unless it is minus zero or below the signed integers of 64 bits. -/
def ofInteger (negative : Bool) (significand : Nat) : Numeral :=
  if !negative then integer significand
  else if significand = 0 ∨ UInt64.size / 2 < significand then
    .float (Number.ofRatio true significand 1)
  else integer (-(significand : Int))

/-- Reads what follows the digits before the point; `tail` counts the digits that did not fit. -/
def afterWhole (negative : Bool) (significand tail : Nat) (s : List Char) : Outcome Numeral :=
  match s with
  | '.' :: r => fractionPart negative significand tail r
  | c :: r =>
    if c = 'e' ∨ c = 'E' then exponentPart negative significand tail r
    else if tail = 0 then .ok (ofInteger negative significand, s)
    else ofParts negative significand tail s
  | [] =>
    if tail = 0 then .ok (ofInteger negative significand, [])
    else ofParts negative significand tail []

/-- Reads a number behind its sign. No digit may follow a zero in front. -/
def read (negative : Bool) (s : List Char) : Outcome Numeral :=
  match s with
  | [] => .error []
  | c :: r =>
    if !c.isDigit then .error r
    else if c = '0' then
      if startsWithDigit r then .error (r.drop 1) else afterWhole negative 0 0 r
    else
      let (significand, _, rest) := accumulate maxSignificand 0 0 s
      let tail := rest.takeWhile Char.isDigit
      afterWhole negative significand tail.length (rest.dropWhile Char.isDigit)

end Numeral

end Sift.Json
