import Sift.Unicode.Runs

/-!
# Sets of code points

A set is given by its *boundaries* in ascending order: it starts at the first, ends before the
second, starts again at the third, and so on. A code point is in the set exactly if an odd number
of boundaries is at most the code point.

**Operations.** All binary operations are one: `CodeSet.merge` walks along the boundaries of two
sets and keeps those at which a truth function of the two memberships changes.
-/

namespace Sift.Unicode

/-- A set of code points. -/
structure CodeSet where
  boundaries : Array Nat

namespace CodeSet

instance : Inhabited CodeSet := ⟨⟨#[]⟩⟩

/-- Reads a list of boundaries. -/
def read (text : String) : CodeSet := ⟨((words text).map hexNumber).toArray⟩

/-- Whether a character is in the set. -/
def contains (s : CodeSet) (c : Char) : Bool := rank s.boundaries c.toNat % 2 == 1

/-- The ranges of the set, both ends included. -/
def ranges (s : CodeSet) : List (Nat × Nat) :=
  pairs s.boundaries.toList
where
  pairs : List Nat → List (Nat × Nat)
    | a :: b :: r => (a, b - 1) :: pairs r
    | _ => []

/-- The boundaries of adjoining ranges, of which none remains. -/
def cancel : List Nat → List Nat
  | a :: b :: r =>
    match cancel (b :: r) with
    | [] => [a]
    | x :: rest => if a = x then rest else a :: x :: rest
  | r => r

/-- The set of ascending ranges, both ends included. -/
def ofRanges (ranges : List (Nat × Nat)) : CodeSet :=
  ⟨(cancel (ranges.flatMap fun r => [r.1, r.2 + 1])).toArray⟩

/-- The set of the code points from `lo` to `hi`. -/
def range (lo hi : Nat) : CodeSet := ofRanges [(lo, hi)]

def empty : CodeSet := ⟨#[]⟩

/-- All characters: all code points but the surrogates. -/
def everything : CodeSet := ofRanges [(0, 0xD7FF), (0xE000, 0x10FFFF)]

/-- The boundaries at which a truth function of two memberships changes. `inA` and `inB` tell
whether the code points before the heads of the lists are in the sets. -/
def merge (op : Bool → Bool → Bool) :
    (fuel : Nat) → (inA inB : Bool) → List Nat → List Nat → List Nat
  | 0, _, _, _, _ => []
  | _ + 1, _, _, [], [] => []
  | fuel + 1, inA, inB, a :: as, [] =>
    let rest := merge op fuel (!inA) inB as []
    if op inA inB == op (!inA) inB then rest else a :: rest
  | fuel + 1, inA, inB, [], b :: bs =>
    let rest := merge op fuel inA (!inB) [] bs
    if op inA inB == op inA (!inB) then rest else b :: rest
  | fuel + 1, inA, inB, a :: as, b :: bs =>
    if a < b then
      let rest := merge op fuel (!inA) inB as (b :: bs)
      if op inA inB == op (!inA) inB then rest else a :: rest
    else if b < a then
      let rest := merge op fuel inA (!inB) (a :: as) bs
      if op inA inB == op inA (!inB) then rest else b :: rest
    else
      let rest := merge op fuel (!inA) (!inB) as bs
      if op inA inB == op (!inA) (!inB) then rest else a :: rest

/-- The set of the code points whose memberships pass a truth function, which must reject code
points outside both sets. -/
def combine (op : Bool → Bool → Bool) (s t : CodeSet) : CodeSet :=
  let a := s.boundaries.toList
  let b := t.boundaries.toList
  ⟨(merge op (a.length + b.length + 1) false false a b).toArray⟩

def union : CodeSet → CodeSet → CodeSet := combine fun a b => a || b

def intersection : CodeSet → CodeSet → CodeSet := combine fun a b => a && b

def difference : CodeSet → CodeSet → CodeSet := combine fun a b => a && !b

def symmetricDifference : CodeSet → CodeSet → CodeSet := combine fun a b => a != b

/-- The characters outside the set. -/
def complement (s : CodeSet) : CodeSet := everything.difference s

/-- Whether all members are ASCII. -/
def isAscii (s : CodeSet) : Bool := s.boundaries.all fun b => b ≤ 0x80

end CodeSet

end Sift.Unicode
