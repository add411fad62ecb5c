import Sift.Value.Basic
import Sift.Number.Decimal

/-!
# Members and paths

A member is found by name: in a map by its key, in a list by its decimal index, in an object by
the object's own table. A path is a list of names, walked from the value inwards; a step that
finds nothing leads to null, and from null no step leads elsewhere.
-/

namespace Sift.Value

/-- Reads an index: decimal digits, with a plus sign allowed in front, below `2 ^ 64`. -/
def index? (name : List Char) : Option Nat :=
  let digits := match name with
    | '+' :: r => r
    | r => r
  if digits ≠ [] ∧ digits.all Char.isDigit then
    let n := Number.natOfDigits digits
    if n < UInt64.size then some n else none
  else none

/-- The member of a value with a name. -/
def member? (v : Value) (name : String) : Option Value :=
  match v with
  | map entries => entries.lookup name
  | list items => (index? name.toList).bind fun i => items[i]?
  | object _ members => members.lookup name
  | _ => none

/-- One step of a path. -/
def step (v : Value) (name : String) : Value := (v.member? name).getD null

/-- The value at the end of a path. -/
def path (v : Value) (names : List String) : Value := names.foldl step v

@[simp] theorem path_nil (v : Value) : v.path [] = v := rfl

@[simp] theorem path_cons (v : Value) (name : String) (names : List String) :
    v.path (name :: names) = (v.step name).path names := rfl

end Sift.Value
