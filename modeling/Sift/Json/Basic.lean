import Sift.Number.Rounding
import Sift.Value.Basic

/-!
# JSON documents

A document is JSON text taken apart. Objects hold their entries in key order. A number keeps its
digits if it is an integer of 64 bits, signed or unsigned, and is a binary64 number otherwise.

**Values.** `Json.toValue` turns a document into a value for patterns; there every number is
binary64, integers rounded to the nearest.
-/

namespace Sift

/-- A number of a document. -/
inductive Json.Numeral where
  | integer (i : Int)
  | float (x : Number)
  deriving DecidableEq

/-- A document. -/
inductive Json where
  | null
  | bool (b : Bool)
  | number (n : Json.Numeral)
  | string (s : String)
  | array (items : List Json)
  | object (entries : List (String × Json))

namespace Json

instance : Inhabited Json := ⟨null⟩

/-- The nearest binary64 number. -/
def Numeral.toNumber : Numeral → Number
  | integer i => Number.ofInt i
  | float x => x

mutual

/-- The document as a value. -/
def toValue : Json → Value
  | null => .null
  | bool b => .bool b
  | number n => .number n.toNumber
  | string s => .string s
  | array items => .list (toValues items)
  | object entries => .map (toEntries entries)

/-- The documents of a list as values. -/
def toValues : List Json → List Value
  | [] => []
  | j :: rest => toValue j :: toValues rest

/-- The documents of entries as values. -/
def toEntries : List (String × Json) → List (String × Value)
  | [] => []
  | (k, j) :: rest => (k, toValue j) :: toEntries rest

end

end Json

end Sift
