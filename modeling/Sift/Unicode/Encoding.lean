import Sift.Unicode.CodeSet

/-!
# The bytes of characters

Characters are written as one to four bytes. The characters of a range are those whose bytes
follow one of a few *sequences of byte ranges*: the range is cut wherever the number of bytes
changes, and wherever a byte would not run through all its values independently of the bytes
before it.
-/

namespace Sift.Unicode

/-- The bytes of a code point. -/
def encode (n : Nat) : List Nat :=
  if n < 0x80 then [n]
  else if n < 0x800 then [0xC0 + n / 64, 0x80 + n % 64]
  else if n < 0x10000 then [0xE0 + n / 4096, 0x80 + n / 64 % 64, 0x80 + n % 64]
  else [0xF0 + n / 262144, 0x80 + n / 4096 % 64, 0x80 + n / 64 % 64, 0x80 + n % 64]

/-- The bytes of a text. -/
def encodeText (text : List Char) : List Nat := text.flatMap fun c => encode c.toNat

/-- Bytes from the first to the last one, both included. -/
abbrev ByteRange := Nat × Nat

/-- The first code point at which a range must be cut so that its bytes vary independently. -/
def cutPoint? (lo hi : Nat) : Option Nat :=
  ([0x80, 0x800, 0x10000].find? fun n => lo < n && n ≤ hi) <|>
    ([64, 4096, 262144].findSome? fun m =>
      if 0x80 ≤ lo ∧ lo / m ≠ hi / m then
        if lo % m ≠ 0 then some (lo / m * m + m)
        else if hi % m ≠ m - 1 then some (hi / m * m)
        else none
      else none)

/-- The sequences of byte ranges that make up a range of code points, in ascending order. A range
is cut at every boundary of the encoding once, so that the fuel need not depend on its length. -/
def byteSequences : (fuel lo hi : Nat) → List (List ByteRange)
  | 0, _, _ => []
  | fuel + 1, lo, hi =>
    match cutPoint? lo hi with
    | some n => byteSequences fuel lo (n - 1) ++ byteSequences fuel n hi
    | none => [(encode lo).zip (encode hi)]

/-- The sequences of byte ranges that make up the set, in ascending order. -/
def CodeSet.byteSequences (s : CodeSet) : List (List ByteRange) :=
  s.ranges.flatMap fun r => Unicode.byteSequences 64 r.1 r.2

end Sift.Unicode
