/-!
# Runs of code points

Character properties come as texts: code points in hexadecimal, in ascending order, each where a
run with a common value starts. `Runs` holds such a table and finds the run of a code point by
binary search.

**Main definitions.** `Runs.read` takes a text with a value behind every start; `rank` counts the
starts up to a code point.
-/

namespace Sift.Unicode

/-- The words of a text, separated by spaces and line feeds. -/
def words (text : String) : List (List Char) :=
  (text.toList.splitOnP fun c => c = ' ' ∨ c = '\n').filter (· ≠ [])

/-- The value of a hexadecimal digit. -/
def hexDigit? (c : Char) : Option Nat :=
  if '0' ≤ c ∧ c ≤ '9' then some (c.toNat - '0'.toNat)
  else if 'a' ≤ c ∧ c ≤ 'f' then some (c.toNat - 'a'.toNat + 10)
  else if 'A' ≤ c ∧ c ≤ 'F' then some (c.toNat - 'A'.toNat + 10)
  else none

/-- The number written in hexadecimal digits; other characters count as `0`. -/
def hexNumber (ds : List Char) : Nat :=
  ds.foldl (fun n c => 16 * n + (hexDigit? c).getD 0) 0

/-- How many entries of the ascending array, from `lo` up to `hi`, are at most `x`, counted from
the front of the array. -/
def rankFrom (starts : Array Nat) (x : Nat) : (fuel lo hi : Nat) → Nat
  | 0, lo, _ => lo
  | fuel + 1, lo, hi =>
    if lo < hi then
      let mid := (lo + hi) / 2
      if starts.getD mid 0 ≤ x then rankFrom starts x fuel (mid + 1) hi
      else rankFrom starts x fuel lo mid
    else lo

/-- How many entries of the ascending array are at most `x`. -/
def rank (starts : Array Nat) (x : Nat) : Nat :=
  rankFrom starts x (Nat.log2 starts.size + 2) 0 starts.size

/-- A table of runs, each with a value. -/
structure Runs (α : Type) where
  starts : Array Nat
  values : Array α

namespace Runs

/-- Reads starts and values in turn. -/
def read {α : Type} (value : List Char → α) (text : String) : Runs α :=
  let entries := pairs (words text)
  ⟨(entries.map fun e => hexNumber e.1).toArray, (entries.map fun e => value e.2).toArray⟩
where
  pairs : List (List Char) → List (List Char × List Char)
    | a :: b :: r => (a, b) :: pairs r
    | _ => []

/-- The value of the run that holds a code point. -/
def find? {α : Type} (t : Runs α) (c : Char) : Option α :=
  match rank t.starts c.toNat with
  | 0 => none
  | n + 1 => t.values[n]?

/-- The ranges of the runs whose value passes a test, both ends included. -/
def ranges {α : Type} (t : Runs α) (keep : α → Bool) : List (Nat × Nat) :=
  let ends := (t.starts.toList.drop 1).map (· - 1) ++ [0x10FFFF]
  ((t.starts.toList.zip ends).zip t.values.toList).filterMap fun r =>
    if keep r.2 then some r.1 else none

end Runs

end Sift.Unicode
