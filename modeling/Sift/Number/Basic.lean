/-!
# Binary floating-point numbers

Numeric values are binary64 numbers. A `Number` is not-a-number, or a sign together with a
*magnitude*: the position of the absolute value in the ascending list of the nonnegative binary64
numbers, which starts at zero and ends at infinity.

**Order.** Positions are ordered as the numbers they stand for, so comparing two numbers is
comparing two signed positions (`Number.key`). The two zeros share the key `0`, and nothing
compares with not-a-number.

**Value.** A finite magnitude `m` stands for `scaled m / 2 ^ 1074`, a quotient of naturals.
-/

namespace Sift

/-- The position of infinity among the nonnegative binary64 numbers. -/
def Number.infinity : Nat := 2047 * Nat.pow 2 52

/-- A binary64 number. All not-a-number encodings are one value. -/
inductive Number where
  | nan
  | signed (negative : Bool) (magnitude : Fin (Number.infinity + 1))
  deriving DecidableEq

namespace Number

/-- The position of a number on the number line: `none` for not-a-number, and `0` for both
zeros. -/
def key : Number → Option Int
  | nan => none
  | signed false m => some m.val
  | signed true m => some (-(m.val : Int))

/-- Numeric equality: the zeros are equal, and not-a-number differs from everything. -/
def equals (x y : Number) : Bool :=
  match x.key, y.key with
  | some a, some b => a == b
  | _, _ => false

/-- Numeric `x < y`, false if either is not a number. -/
def less (x y : Number) : Bool :=
  match x.key, y.key with
  | some a, some b => a < b
  | _, _ => false

/-- Numeric `x ≤ y`, false if either is not a number. -/
def atMost (x y : Number) : Bool :=
  match x.key, y.key with
  | some a, some b => a ≤ b
  | _, _ => false

/-- The number at position `m`, or infinity if there is none. -/
def ofMagnitude (negative : Bool) (m : Nat) : Number :=
  signed negative ⟨min m infinity, by omega⟩

/-- Positive zero. -/
def zero : Number := ofMagnitude false 0

/-- The number with its sign flipped. -/
def negate : Number → Number
  | nan => nan
  | signed negative m => signed (!negative) m

def isNaN : Number → Bool
  | nan => true
  | signed _ _ => false

/-- `2 ^ 1074` times the value of the magnitude `m`. -/
def scaled (m : Nat) : Nat :=
  let binade := Nat.pow 2 52
  if m < binade then m else (binade + m % binade) * Nat.pow 2 (m / binade - 1)

/-- The denominator of `scaled`. -/
def unit : Nat := Nat.pow 2 1074

end Number

end Sift
