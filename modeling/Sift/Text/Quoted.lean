import Sift.Unicode.Recent

/-!
# Quoted text

**Rule.** A quoted text stands between double quotes. Quote, backslash, line feed, carriage
return, tab and NUL have escapes of two characters; every other character that is not visible on
its own is written as its hexadecimal code point in braces. Visible are all characters but
controls, formats, surrogates, private-use and unassigned code points, separators other than the
space, characters that are ignored by default, such as fillers, and characters that extend the one
before them. The two halfwidth sound marks extend in name only: they have a width of their own.
-/

namespace Sift.Text

/-- The marks that count as extending but stand on their own. -/
def soundMarks : List Char := ['\uff9e', '\uff9f']

/-- The characters that extend the one before them, other than nonspacing and enclosing marks. -/
def extendingSet : Unicode.CodeSet := Unicode.Property.otherGraphemeExtend.set

/-- The characters that are ignored by default. -/
def ignorableSet : Unicode.CodeSet := Unicode.Property.defaultIgnorableCodePoint.set

/-- Whether a character is written as it is. -/
def isVisible (c : Char) : Bool :=
  match Unicode.Recent.category c with
  | .cc | .cf | .cs | .co | .cn | .zl | .zp | .mn | .me => false
  | .zs => c == ' '
  | _ => !ignorableSet.contains c && (soundMarks.contains c || !extendingSet.contains c)

/-- The hexadecimal digits of a code point. -/
def hexDigits (c : Char) : List Char := Nat.toDigits 16 c.toNat

/-- One character inside quotes. -/
def escape (c : Char) : List Char :=
  if c = '"' then ['\\', '"']
  else if c = '\\' then ['\\', '\\']
  else if c = '\n' then ['\\', 'n']
  else if c = '\r' then ['\\', 'r']
  else if c = '\t' then ['\\', 't']
  else if c = Char.ofNat 0 then ['\\', '0']
  else if isVisible c then [c]
  else ['\\', 'u', '\x7b'] ++ hexDigits c ++ ['\x7d']

/-- The text between double quotes. -/
def quote (s : List Char) : List Char := '"' :: s.flatMap escape ++ ['"']

end Sift.Text
