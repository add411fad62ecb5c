import Sift.Unicode.Property
import Sift.Unicode.Recent.Table

/-!
# The most recent characters

The tables of the library describe version 16.0 of the standard, and to the classes of expressions
later characters are unassigned. Version 17.0 adds the characters of `Recent.runs`. They are known
where text is written out and where groups are named, which ask for `Recent.category` and
`Recent.isAlphanumeric`.
-/

namespace Sift.Unicode.Recent

/-- The runs of equal category among the most recent characters; all others are unassigned. -/
def runs : Runs Category := Runs.read Category.ofCode table

/-- The general category of a character in the most recent version. -/
def category (c : Char) : Category :=
  match (runs.find? c).getD .cn with
  | .cn => Category.ofChar c
  | g => g

/-- The alphabetic characters of the most recent version. -/
def alphabeticSet : CodeSet := Property.alphabetic.set.union (CodeSet.read alphabeticTable)

/-- Whether a character is alphabetic in the most recent version. -/
def isAlphabetic (c : Char) : Bool := alphabeticSet.contains c

/-- A letter or a number in the wide sense. -/
def isAlphanumeric (c : Char) : Bool :=
  isAlphabetic c ||
    match category c with
    | .nd | .nl | .no => true
    | _ => false

end Sift.Unicode.Recent
