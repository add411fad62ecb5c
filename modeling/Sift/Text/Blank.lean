/-!
# Blanks

The blank characters are those with the Unicode property `White_Space`. Texts are trimmed of
blanks at their ends and cut into words at every run of blanks.
-/

namespace Sift.Text

/-- Whether a character is blank. -/
def isBlank (c : Char) : Bool :=
  let n := c.toNat
  (9 ≤ n && n ≤ 13) || n == 0x20 || n == 0x85 || n == 0xA0 || n == 0x1680 ||
    (0x2000 ≤ n && n ≤ 0x200A) || n == 0x2028 || n == 0x2029 || n == 0x202F ||
    n == 0x205F || n == 0x3000

/-- The text without blanks in front. -/
def trimStart (s : List Char) : List Char := s.dropWhile isBlank

/-- The text without blanks at the end. -/
def trimEnd (s : List Char) : List Char := (s.reverse.dropWhile isBlank).reverse

/-- The text without blanks at either end. -/
def trim (s : List Char) : List Char := trimEnd (trimStart s)

/-- The nonempty pieces of the text between blanks. -/
def words (s : List Char) : List (List Char) :=
  (s.splitOnP isBlank).filter (· ≠ [])

end Sift.Text
