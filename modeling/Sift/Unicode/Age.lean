import Sift.Unicode.CodeSet
import Sift.Unicode.Age.Table

/-!
# Ages

The age of a character is the version of the standard that first assigned it. A version knows
every character that is at least as old as itself, `Age.upTo`.
-/

namespace Sift.Unicode.Age

/-- The versions that assigned characters, the oldest first. -/
def versions : List String :=
  ["1.1", "2.0", "2.1", "3.0", "3.1", "3.2", "4.0", "4.1", "5.0", "5.1", "5.2", "6.0", "6.1",
   "6.2", "6.3", "7.0", "8.0", "9.0", "10.0", "11.0", "12.0", "12.1", "13.0", "14.0", "15.0",
   "15.1", "16.0"]

/-- The names of a version: its number, and the number behind a letter with a low line for the
point. -/
def names (version : String) : List String :=
  [version, String.ofList ('V' :: version.toList.map fun c => if c = '.' then '_' else c)]

/-- The place of a version among all versions, counted from one; zero for anything else. -/
def place (version : String) : Nat := ((versions.findIdx? (· == version)).map (· + 1)).getD 0

/-- The runs of equal age, given by the places of versions. -/
def runs : Runs Nat := Runs.read (fun w => place (String.ofList w)) table

/-- The characters that a version or an older one assigned. -/
def upTo (version : String) : CodeSet :=
  (CodeSet.ofRanges (runs.ranges fun n => 0 < n && n ≤ place version)).intersection
    CodeSet.everything

end Sift.Unicode.Age
