import Sift.Json.Basic
import Sift.Number.Notation

/-!
# Writing JSON

Documents are written without blanks. Integers keep their digits, other numbers are in document
notation, and strings escape the quote, the backslash and the characters below the space.
-/

namespace Sift.Json

/-- One character inside a string. -/
def escapeChar (c : Char) : List Char :=
  if c = '"' then ['\\', '"']
  else if c = '\\' then ['\\', '\\']
  else if c = '\n' then ['\\', 'n']
  else if c = '\r' then ['\\', 'r']
  else if c = '\t' then ['\\', 't']
  else if c = Char.ofNat 8 then ['\\', 'b']
  else if c = Char.ofNat 12 then ['\\', 'f']
  else if c.toNat < 0x20 then
    ['\\', 'u', '0', '0', Nat.digitChar (c.toNat / 16), Nat.digitChar (c.toNat % 16)]
  else [c]

/-- A string between quotes. -/
def quote (s : String) : List Char := '"' :: s.toList.flatMap escapeChar ++ ['"']

/-- The text of a number. -/
def Numeral.write : Numeral → List Char
  | integer i => (toString i).toList
  | float x => x.documentText.toList

mutual

/-- The text of a document. -/
def write : Json → List Char
  | null => ['n', 'u', 'l', 'l']
  | bool true => ['t', 'r', 'u', 'e']
  | bool false => ['f', 'a', 'l', 's', 'e']
  | number n => n.write
  | string s => quote s
  | array items => '[' :: [','].intercalate (writeItems items) ++ [']']
  | object entries => '\x7b' :: [','].intercalate (writeEntries entries) ++ ['\x7d']

/-- The texts of the items of an array. -/
def writeItems : List Json → List (List Char)
  | [] => []
  | j :: rest => write j :: writeItems rest

/-- The texts of the entries of an object. -/
def writeEntries : List (String × Json) → List (List Char)
  | [] => []
  | (k, j) :: rest => (quote k ++ ':' :: write j) :: writeEntries rest

end

/-- The text of a document, as a string. -/
def toText (j : Json) : String := String.ofList j.write

end Sift.Json
