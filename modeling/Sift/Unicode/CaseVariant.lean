import Sift.Unicode.CodeSet
import Sift.Unicode.CaseVariant.Table

/-!
# Case variants

Two characters are case variants of each other when simple case folding maps them to the same
character: `k`, `K` and the Kelvin sign are, `ß` and `ss` are not, and the Turkish dotted and
dotless letters are variants of themselves only.

A class of variants is represented by its least member, `CaseVariant.least`.
-/

namespace Sift.Unicode.CaseVariant

/-- The folded code points of a run and their representatives. -/
def Run.entries (r : Run) : List (Nat × Nat) :=
  (List.range r.count).map fun i => (r.first + r.step * i, r.least + r.step * i)

/-- Folded code points and their representatives. -/
def entries : List (Nat × Nat) := table.flatMap Run.entries

/-- The folded code points, in ascending order. -/
def folded : Array Nat := (entries.map (·.1)).toArray

/-- The representatives of the folded code points. -/
def representatives : Array Nat := (entries.map (·.2)).toArray

/-- The entries in the order of their representatives. -/
def byRepresentative : Array (Nat × Nat) :=
  ((entries.map fun e => (e.2, e.1)).mergeSort fun a b => a.1 ≤ b.1).toArray

/-- The representatives in ascending order, one for every entry. -/
def sortedRepresentatives : Array Nat := byRepresentative.map (·.1)

/-- The least case variant of a character. -/
def least (c : Char) : Char :=
  match rank folded c.toNat with
  | 0 => c
  | n + 1 =>
    if folded.getD n 0 = c.toNat then Char.ofNat (representatives.getD n 0) else c

/-- Whether two characters are the same up to case. -/
def same (a b : Char) : Bool := least a == least b

/-- All case variants of a character, itself included. -/
def all (c : Char) : List Char :=
  let l := least c
  let stop := rank sortedRepresentatives l.toNat
  let start := if l.toNat = 0 then 0 else rank sortedRepresentatives (l.toNat - 1)
  l :: (List.range (stop - start)).map fun i =>
    Char.ofNat (byRepresentative.getD (start + i) (0, 0)).2

/-- The set of all case variants of a character. -/
def setOf (c : Char) : CodeSet := .ofRanges ((all c).mergeSort.map fun v => (v.toNat, v.toNat))

/-- The code points that have other case variants, in ascending order. -/
def cased : List Nat :=
  (folded.toList ++ byRepresentative.toList.map (·.1)).mergeSort.eraseReps

/-- The set with all case variants of its members. -/
def closure (s : CodeSet) : CodeSet :=
  let added := cased.filter fun n => (all (Char.ofNat n)).any s.contains
  s.union (CodeSet.ofRanges (added.map fun n => (n, n)))

end Sift.Unicode.CaseVariant
