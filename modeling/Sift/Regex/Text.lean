import Sift.Regex.Reader
import Sift.Regex.Meaning
import Sift.Regex.Search
import Sift.Regex.Size
import Sift.Regex.Start

/-!
# Texts as regular expressions

A text is a regular expression if it can be read, if every part of it has a meaning under its
flags, and if it is not too large. Only expressions whose matches can be listed may be larger: the
list takes their place.
-/

namespace Sift.Regex

/-- The expression to search for in place of a form. -/
def ofForm? (f : Form) : Option Regex :=
  if f.fits then some f.regex
  else f.listing?.map fun texts => alternateAll (texts.map Form.regexOfText)

/-- The regular expression that a text is. -/
def ofText? (text : List Char) : Option Regex :=
  (Reader.read? text).bind fun e => (e.meaning? .initial).bind fun (f, _) => ofForm? f

end Sift.Regex
