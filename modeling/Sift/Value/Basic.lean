import Sift.Number.Basic
import Sift.Entries

/-!
# Values

A `Value` is what a pattern is matched against: null, a truth value, a number, a text, a list, a
map, or an object of the host.

**Maps** hold their entries in key order. **Objects** are known by an identity; what they share
with maps is that members can be asked for by name.

**Equality.** `Value.equals` compares numbers as numbers, so not-a-number makes every value that
contains it differ from itself, and objects by their identity.
-/

namespace Sift

/-- What patterns are matched against. -/
inductive Value where
  | null
  | bool (b : Bool)
  | number (n : Number)
  | string (s : String)
  | list (items : List Value)
  | map (entries : List (String × Value))
  | object (identity : String) (members : List (String × Value))

namespace Value

instance : Inhabited Value := ⟨null⟩

/-- The map with the given entries, the last one winning for a repeated key. -/
def ofEntries (entries : List (String × Value)) : Value := map (Entries.ofList entries)

def isNull : Value → Bool
  | null => true
  | _ => false

/-- The name of the kind of value. -/
def typeName : Value → String
  | null => "null"
  | bool _ => "bool"
  | number _ => "number"
  | string _ => "string"
  | list _ => "list"
  | map _ => "map"
  | object _ _ => "object"

/-- The size of a text, list or map: its characters, elements or entries. -/
def size? : Value → Option Nat
  | string s => some s.length
  | list items => some items.length
  | map entries => some entries.length
  | _ => none

mutual

/-- Equality of values. -/
def equals : Value → Value → Bool
  | null, null => true
  | bool a, bool b => a == b
  | number a, number b => a.equals b
  | string a, string b => a == b
  | list a, list b => equalsList a b
  | map a, map b => equalsEntries a b
  | object a _, object b _ => a == b
  | _, _ => false

/-- Equality of lists, element by element. -/
def equalsList : List Value → List Value → Bool
  | [], [] => true
  | a :: as, b :: bs => equals a b && equalsList as bs
  | _, _ => false

/-- Equality of entries, in key order. -/
def equalsEntries : List (String × Value) → List (String × Value) → Bool
  | [], [] => true
  | (k, a) :: as, (l, b) :: bs => k == l && equals a b && equalsEntries as bs
  | _, _ => false

end

end Value

end Sift
