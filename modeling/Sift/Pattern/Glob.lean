import Sift.Regex.Size
import Sift.Unicode.CaseVariant

/-!
# Globs

A glob covers whole texts: `*` stands for any run of characters, `?` for exactly one, and every
other character for itself, or for its case variants if case is ignored.

**Which texts are globs.** A text with a wildcard is one unless it reads like a regular expression:
no brackets, anchors, bars, plus signs or backslashes, and no wildcard just behind a dot.

**Language.** `Glob.Covers` states the language of a glob. `Glob.covers` decides it in one pass
over the text, keeping for every place in the glob whether the glob up to there covers what has
been read.
-/

namespace Sift

/-- One part of a glob. -/
inductive Glob.Part where
  | anyRun
  | anyOne
  | char (c : Char)
  deriving DecidableEq

/-- A glob. -/
structure Glob where
  parts : List Glob.Part
  ignoreCase : Bool
  deriving DecidableEq

namespace Glob

/-- The characters that a glob cannot contain. -/
def isExcluded (c : Char) : Bool :=
  ['\\', '(', ')', '[', ']', '\x7b', '\x7d', '^', '$', '|', '+'].contains c

/-- The characters that stand for others. -/
def isWildcard (c : Char) : Bool := c = '*' || c = '?'

/-- Whether a wildcard stands just behind a dot. -/
def hasDottedWildcard : List Char → Bool
  | c :: d :: rest => (c = '.' && isWildcard d) || hasDottedWildcard (d :: rest)
  | _ => false

/-- Whether a text is a glob. -/
def isGlob (text : List Char) : Bool :=
  text.any isWildcard && !text.any isExcluded && !hasDottedWildcard text

/-- The part that a character of a glob is. -/
def Part.ofChar (c : Char) : Part :=
  if c = '*' then anyRun else if c = '?' then anyOne else char c

/-- The glob that a text is. -/
def ofText? (ignoreCase : Bool) (text : List Char) : Option Glob :=
  if isGlob text then some ⟨text.map Part.ofChar, ignoreCase⟩ else none

/-- Whether a character of a text is the given one of the glob. -/
def sameChar (ignoreCase : Bool) (a b : Char) : Bool :=
  if ignoreCase then Unicode.CaseVariant.same a b else a == b

/-- Whether a part can stand for a single character. -/
def Part.accepts (ignoreCase : Bool) (c : Char) : Part → Bool
  | anyRun => true
  | anyOne => true
  | char d => sameChar ignoreCase d c

/-- The language of a list of parts. -/
def Covers (ignoreCase : Bool) : List Part → List Char → Prop
  | [], text => text = []
  | .anyRun :: parts, text => ∃ run rest, text = run ++ rest ∧ Covers ignoreCase parts rest
  | .anyOne :: parts, text => ∃ c rest, text = c :: rest ∧ Covers ignoreCase parts rest
  | .char d :: parts, text =>
    ∃ c rest, text = c :: rest ∧ sameChar ignoreCase d c = true ∧ Covers ignoreCase parts rest

/-- For every place in a list of parts, the one behind it included, whether the parts before it
cover the empty text. `here` says so for the parts before the list. -/
def start (here : Bool) : List Part → List Bool
  | [] => [here]
  | part :: parts => here :: start (here && part = .anyRun) parts

/-- The places after one more character. `reached` says whether the part before the list has just
been passed. -/
def advance (ignoreCase : Bool) (c : Char) (reached : Bool) : List Part → List Bool → List Bool
  | part :: parts, live :: places =>
    let here := reached || (live && part = .anyRun)
    let passed := (live && part ≠ .anyRun && part.accepts ignoreCase c) ||
      (here && part = .anyRun)
    here :: advance ignoreCase c passed parts places
  | _, _ => [reached]

/-- Whether the glob covers a text. -/
def covers (g : Glob) (text : List Char) : Bool :=
  (text.foldl (fun places c => advance g.ignoreCase c false g.parts places)
    (start true g.parts)).getLastD false

/-! ## As a regular expression -/

/-- Whether a character must be escaped in a regular expression. -/
def needsEscape (c : Char) : Bool :=
  ['\\', '.', '+', '*', '?', '(', ')', '|', '[', ']', '\x7b', '\x7d', '^', '$', '#', '&', '-',
    '~'].contains c

/-- The regular expression for one part. -/
def Part.source : Part → List Char
  | anyRun => ['.', '*']
  | anyOne => ['.']
  | char c => if needsEscape c then ['\\', c] else [c]

/-- The text of a regular expression for the glob, in which a dot stands for every character. -/
def source (g : Glob) : List Char :=
  ['(', '?', 's', ')', '^'] ++ g.parts.flatMap Part.source ++ ['$']

/-- The form of one part. -/
def Part.form (ignoreCase : Bool) : Part → Regex.Form
  | anyRun => .repeated (.ofSet true .everything) 0 none true
  | anyOne => .ofSet true .everything
  | char c =>
    .ofSet true (if ignoreCase then Unicode.CaseVariant.setOf c else .range c.toNat c.toNat)

/-- The form of the glob, between the start and the end of a text. -/
def form (g : Glob) : Regex.Form :=
  .join ([.look .textStart] ++ g.parts.map (Part.form g.ignoreCase) ++ [.look .textEnd])

/-- Whether the glob is not too large for a regular expression. -/
def fits (g : Glob) : Bool := g.form.fits

end Glob

end Sift
