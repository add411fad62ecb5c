import Sift.Value.Basic
import Sift.Number.Notation
import Sift.Text.Quoted

/-!
# Writing values

Numbers are in plain notation, texts and keys are quoted, lists stand in brackets and maps in
braces with a comma and a space between their parts. An object is written as its identity in
angle brackets.
-/

namespace Sift.Value

/-- Joins parts with a comma and a space. -/
def commaJoin : List (List Char) → List Char
  | [] => []
  | [part] => part
  | part :: rest => part ++ ',' :: ' ' :: commaJoin rest

mutual

/-- The text of a value. -/
def display : Value → List Char
  | null => ['n', 'u', 'l', 'l']
  | bool true => ['t', 'r', 'u', 'e']
  | bool false => ['f', 'a', 'l', 's', 'e']
  | number n => n.display.toList
  | string s => Text.quote s.toList
  | list items => '[' :: commaJoin (displayList items) ++ [']']
  | map entries => '\x7b' :: commaJoin (displayEntries entries) ++ ['\x7d']
  | object identity _ => '<' :: identity.toList ++ ['>']

/-- The texts of the elements of a list. -/
def displayList : List Value → List (List Char)
  | [] => []
  | v :: rest => display v :: displayList rest

/-- The texts of the entries of a map. -/
def displayEntries : List (String × Value) → List (List Char)
  | [] => []
  | (k, v) :: rest => (Text.quote k.toList ++ ':' :: ' ' :: display v) :: displayEntries rest

end

end Sift.Value
