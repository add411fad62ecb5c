import Sift.Number.Decimal

/-!
# The grammars of numbers and variables

Four small languages, read from the front of a text. With `space` any run of space, tab, carriage
return and line feed, and decimal digits in ASCII:

* **number**: `'-'? digit+ ('.' digit+)?`
* **comparison**: `space operator? space number space`
* **range**: `space number space '-' space number space`
* **variable**: `space '$' nameChar+ space`, a name character being an ASCII letter, a digit or `_`

A `Reader` gives what it read and the text that is left, having read as much as the grammar
allows; `complete` accepts a text only if nothing is left.
-/

namespace Sift

namespace Grammar

/-- Reads something from the front of a text and returns it with the rest. -/
abbrev Reader (α : Type) := List Char → Option (α × List Char)

/-- The characters that may stand between the parts of a pattern. -/
def isSpace (c : Char) : Bool := c = ' ' || c = '\t' || c = '\r' || c = '\n'

/-- The text without space in front. -/
def skipSpace (s : List Char) : List Char := s.dropWhile isSpace

/-- Reads an optional minus. -/
def minus : List Char → Bool × List Char
  | '-' :: r => (true, r)
  | r => (false, r)

/-- Reads digits and a fraction; a point that no digit follows is left over. -/
def unsignedNumber (negative : Bool) : Reader Number := fun s =>
  let whole := s.takeWhile Char.isDigit
  let rest := s.dropWhile Char.isDigit
  if whole = [] then none
  else match rest with
    | '.' :: r =>
      let fraction := r.takeWhile Char.isDigit
      if fraction = [] then some (Number.ofDigits negative whole [], rest)
      else some (Number.ofDigits negative whole fraction, r.dropWhile Char.isDigit)
    | _ => some (Number.ofDigits negative whole [], rest)

/-- Reads a number. -/
def number : Reader Number := fun s =>
  let (negative, r) := minus s
  unsignedNumber negative r

end Grammar

/-- The relational operators of a comparison. -/
inductive Operator where
  | eq | ne | lt | le | gt | ge
  deriving DecidableEq

namespace Operator

/-- Whether `left` stands in the relation to `right`. -/
def holds : Operator → Number → Number → Bool
  | eq, left, right => left.equals right
  | ne, left, right => !left.equals right
  | lt, left, right => left.less right
  | le, left, right => left.atMost right
  | gt, left, right => right.less left
  | ge, left, right => right.atMost left

/-- The spellings of the operators, in the order in which they are tried. -/
def spellings : List (List Char × Operator) :=
  [(['>', '='], ge), (['<', '='], le), (['=', '='], eq), (['!', '='], ne),
   (['≥'], ge), (['≤'], le), (['≠'], ne), (['>'], gt), (['<'], lt), (['='], eq)]

/-- Reads an operator. -/
def read : Grammar.Reader Operator := fun s =>
  spellings.findSome? fun e => (e.1.isPrefixOf? s).map fun rest => (e.2, rest)

end Operator

/-- A comparison with a fixed number, such as `>= 5`. -/
structure Comparison where
  operator : Operator
  operand : Number
  deriving DecidableEq

/-- Whether a number passes the comparison. -/
def Comparison.holds (c : Comparison) (x : Number) : Bool := c.operator.holds x c.operand

/-- An interval of numbers, both ends included. -/
structure Interval where
  low : Number
  high : Number
  deriving DecidableEq

/-- Whether a number lies in the interval. -/
def Interval.contains (i : Interval) (x : Number) : Bool := i.low.atMost x && x.atMost i.high

namespace Grammar

/-- Reads a comparison; without an operator it is equality. -/
def comparison : Reader Comparison := fun s =>
  let s := skipSpace s
  let (operator, s) := (Operator.read s).getD (.eq, s)
  (number (skipSpace s)).map fun (operand, rest) => (⟨operator, operand⟩, skipSpace rest)

/-- Reads the upper end of a range, after the dash. -/
def rangeEnd (low : Number) : Reader Interval
  | '-' :: r => (number (skipSpace r)).map fun (high, rest) => (⟨low, high⟩, skipSpace rest)
  | _ => none

/-- Reads a range. -/
def range : Reader Interval := fun s =>
  (number (skipSpace s)).bind fun (low, rest) => rangeEnd low (skipSpace rest)

/-- The characters of a variable's name. -/
def isNameChar (c : Char) : Bool := c.isAlphanum || c = '_'

/-- Reads a name after the dollar sign. -/
def name : Reader (List Char)
  | '$' :: r =>
    let name := r.takeWhile isNameChar
    if name = [] then none else some (name, skipSpace (r.dropWhile isNameChar))
  | _ => none

/-- Reads a variable. -/
def variableName : Reader (List Char) := fun s => name (skipSpace s)

/-- Reads a whole text. -/
def complete {α : Type} (reader : Reader α) (text : List Char) : Option α :=
  match reader text with
  | some (a, []) => some a
  | _ => none

end Grammar

end Sift
