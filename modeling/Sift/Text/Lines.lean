/-!
# Lines

A line ends at a line feed, and a carriage return just before the line feed belongs to the end.
The last line needs no line feed, and a line feed at the very end starts no further line.
-/

namespace Sift.Text

/-- The line without one carriage return at its end. -/
def dropCarriageReturn (line : List Char) : List Char :=
  if line.getLast? = some '\r' then line.dropLast else line

/-- The lines among the pieces between line feeds: every piece but the last is ended by a line
feed, and the last one is a line unless it is empty. -/
def ofPieces : List (List Char) → List (List Char)
  | [] => []
  | [last] => if last = [] then [] else [last]
  | line :: rest => dropCarriageReturn line :: ofPieces rest

/-- The lines of a text. -/
def lines (s : List Char) : List (List Char) := ofPieces (s.splitOn '\n')

/-- The number of line feeds in a text. -/
def lineFeeds (s : List Char) : Nat := s.count '\n'

end Sift.Text
