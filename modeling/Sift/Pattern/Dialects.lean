import Sift.Pattern.Basic
import Sift.Regex.Text
import Sift.Text.Blank

/-!
# What the dialects read

Every dialect reads the text of a pattern on its own, or finds that the text is none of its
business. The dialects that take a text apart apply only as long as patterns may be derived.
-/

namespace Sift

namespace Pattern

open Text (trim trimStart)

/-- The name of the variable that the text is. -/
def readCapture (p : Pattern) : Option (Reading Pattern) :=
  (Grammar.complete Grammar.variableName p.text).map fun name =>
    .capture (String.ofList name)

/-- The text behind an exclamation mark. -/
def operandOfNegation? (text : List Char) : Option (List Char) :=
  match trimStart text with
  | '!' :: r => if trimStart r = [] then none else some (trimStart r)
  | _ => none

/-- The pattern behind an exclamation mark. -/
def readNegation (p : Pattern) : Option (Reading Pattern) :=
  if p.canDerive then (operandOfNegation? p.text).map fun t => .negation (p.derive t) else none

/-- The glob that the text is, if it is not too large. -/
def readGlob (p : Pattern) : Option (Reading Pattern) :=
  ((Glob.ofText? p.settings.ignoreCase p.text).filter Glob.fits).map .glob

/-- The comparison that the text is. -/
def readComparison (p : Pattern) : Option (Reading Pattern) :=
  (Grammar.complete Grammar.comparison p.text).map .comparison

/-- The range that the text is. -/
def readRange (p : Pattern) : Option (Reading Pattern) :=
  (Grammar.complete Grammar.range p.text).map .range

/-- The texts between commas. -/
def listItems (text : List Char) : List (List Char) := (text.splitOn ',').map trim

/-- The patterns between commas; a text without commas is a list of one. -/
def readList (p : Pattern) : Option (Reading Pattern) :=
  if p.canDerive then some (.list ((listItems p.text).map p.derive)) else none

/-- The regular expression that the text is. -/
def readRegex (p : Pattern) : Option (Reading Pattern) := (Regex.ofText? p.text).map .regex

/-- The words of a text, if there are at least two and each contains a colon. -/
def fieldGroups? (text : List Char) : Option (List (List Char)) :=
  let groups := Text.words text
  if 2 ≤ groups.length ∧ groups.all (·.contains ':') then some groups else none

/-- The groups of a text that is several property patterns. -/
def readFields (p : Pattern) : Option (Reading Pattern) :=
  if p.canDerive then (fieldGroups? p.text).map fun gs => .fields (gs.map p.derive) else none

/-- The names of a path, and the text behind the first colon. -/
def pathAndRest? (text : List Char) : Option (List String × List Char) :=
  match text.dropWhile (· ≠ ':') with
  | _ :: rest =>
    some (((trim (text.takeWhile (· ≠ ':'))).splitOn '.').map String.ofList, rest)
  | [] => none

/-- The path and the pattern of a text with a colon. -/
def readProperty (p : Pattern) : Option (Reading Pattern) :=
  if p.canDerive then
    (pathAndRest? p.text).map fun (names, rest) => .property names (p.derive rest)
  else none

end Pattern

namespace Dialect

/-- What a dialect reads from a pattern. -/
def read (p : Pattern) : Dialect → Option (Reading Pattern)
  | anything => none
  | nullOrEmpty => none
  | capture => p.readCapture
  | negation => p.readNegation
  | glob => p.readGlob
  | comparison => p.readComparison
  | range => p.readRange
  | list => p.readList
  | regex => p.readRegex
  | multiField => p.readFields
  | property => p.readProperty

/-- Whether a reading is of the form that a dialect produces. -/
def produces : Dialect → Reading Pattern → Bool
  | capture, .capture _ => true
  | negation, .negation _ => true
  | glob, .glob _ => true
  | comparison, .comparison _ => true
  | range, .range _ => true
  | list, .list _ => true
  | regex, .regex _ => true
  | multiField, .fields _ => true
  | property, .property _ _ => true
  | _, _ => false

/-- Whether a dialect reads before judging: once for every pattern, and never if what is kept is
not its own. The first two dialects have nothing to read. -/
def shouldRead (first : Bool) (kept : Option (Reading Pattern)) : Dialect → Bool
  | anything => false
  | nullOrEmpty => false
  | d => first && kept.all d.produces

end Dialect

namespace Matcher

/-- The data that an added matcher keeps. -/
def dataOf : Reading Pattern → Option Value
  | .added data => some data
  | _ => none

/-- What a matcher reads from a pattern. -/
def read (p : Pattern) : Matcher → Option (Reading Pattern)
  | builtIn d => d.read p
  | added a => (a.read p.view).map .added

/-- Whether a matcher reads before judging. -/
def shouldRead (first : Bool) (kept : Option (Reading Pattern)) (p : Pattern) : Matcher → Bool
  | builtIn d => d.shouldRead first kept
  | added a => a.shouldRead first (kept.bind dataOf) p.view

end Matcher

namespace Pattern

/-- What a matcher has read from the pattern. It reads now if it is forced to or wants to, and the
cache keeps the result even if there was nothing to read. -/
def ensureRead (p : Pattern) (m : Matcher) (force : Bool) (s : State) :
    Option (Reading Pattern) × Pattern × State :=
  let entry := p.cached? m.kind
  let kept := entry.bind id
  if force || m.shouldRead entry.isNone kept p then
    let reading := m.read p
    (reading, p.store m.kind reading, s.logged p m)
  else (kept, p, s)

end Pattern

end Sift
