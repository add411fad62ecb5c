import Sift.Unicode.CodeSet
import Sift.Unicode.Script.Table

/-!
# Scripts

A script is named by its four-letter code. Every character belongs to at most one script
(`Script.set`), and may be in use in several (`Script.extendedSet`).
-/

namespace Sift.Unicode.Script

/-- The names of every script, its code first. -/
def allNames : List (List String) :=
  (words names).map fun w => (w.splitOn '/').map String.ofList

/-- The runs of equal script. -/
def runs : Runs String := Runs.read String.ofList table

/-- The runs of characters used in other scripts than their own. -/
def extensionRuns : Runs (List String) :=
  Runs.read (fun w => if w = ['-'] then [] else (w.splitOn ',').map String.ofList) extensions

/-- The characters of a script. -/
def set (code : String) : CodeSet :=
  (CodeSet.ofRanges (runs.ranges (· == code))).intersection CodeSet.everything

/-- The characters in use in a script. -/
def extendedSet (code : String) : CodeSet :=
  let listed := CodeSet.ofRanges (extensionRuns.ranges (· ≠ []))
  let used := CodeSet.ofRanges (extensionRuns.ranges (·.contains code))
  ((set code).difference listed).union used

end Sift.Unicode.Script
