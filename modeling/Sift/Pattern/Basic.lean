import Sift.Pattern.Chain
import Sift.Pattern.Glob
import Sift.Pattern.Grammar
import Sift.Regex.Basic

/-!
# Patterns

A pattern is a text together with the settings under which it is read. What matchers have read
from the text is kept in the pattern's *cache*, one entry for a kind of matcher; an entry may say
that there was nothing to read.

**Derived patterns.** A dialect that takes the text apart keeps the parts as patterns of their
own, derived from the whole: they have its settings, are one deeper, and start with an empty
cache. Patterns at the depth limit derive no further.

**Variables** are not part of a pattern. A pattern and all patterns derived from it work on one
list of `Bindings`, which is passed along.
-/

namespace Sift

/-- What a matcher has read from the text of a pattern; `P` is the type of sub-patterns. -/
inductive Reading (P : Type) where
  | capture (name : String)
  | negation (operand : P)
  | glob (g : Glob)
  | comparison (c : Comparison)
  | range (i : Interval)
  | list (items : List P)
  | regex (r : Regex)
  | fields (groups : List P)
  | property (names : List String) (pattern : P)
  | added (data : Value)

/-- The settings that derived patterns inherit. -/
structure Settings where
  chain : Chain
  mode : Mode
  ignoreCase : Bool
  depthLimit : Nat

/-- The greatest depth at which a pattern still derives others is one less than this. -/
def Settings.defaultDepthLimit : Nat := 256

/-- The settings of a new pattern: all dialects, exact mode, case ignored. -/
def Settings.standard : Settings :=
  ⟨.standard, .exact, true, defaultDepthLimit⟩

/-- A text with its settings, its place in a derivation, and what matchers have read from it. -/
structure Pattern where
  text : List Char
  settings : Settings
  isRoot : Bool
  depth : Nat
  cache : List (Kind × Option (Reading Pattern))

namespace Pattern

/-- A pattern of its own. -/
def root (settings : Settings) (text : List Char) : Pattern :=
  ⟨text, settings, true, 0, []⟩

/-- The standard pattern with a text. -/
def ofText (text : String) : Pattern := root .standard text.toList

/-- A pattern for a part of the text, or for any other text, one deeper. -/
def derive (p : Pattern) (text : List Char) : Pattern :=
  ⟨text, p.settings, false, p.depth + 1, []⟩

/-- Whether further patterns may be derived. -/
def canDerive (p : Pattern) : Bool := p.depth < p.settings.depthLimit

/-- The pattern without anything read. -/
def forget (p : Pattern) : Pattern := { p with cache := [] }

/-- Changes the settings. What was read under the old ones is forgotten. -/
def withSettings (p : Pattern) (f : Settings → Settings) : Pattern :=
  { p with settings := f p.settings, cache := [] }

/-- Changes the mode. -/
def setMode (p : Pattern) (mode : Mode) : Pattern :=
  p.withSettings fun s => { s with mode }

/-- Changes whether case is ignored. -/
def setIgnoreCase (p : Pattern) (ignoreCase : Bool) : Pattern :=
  p.withSettings fun s => { s with ignoreCase }

/-- Inserts a matcher into the chain. -/
def insert (p : Pattern) (m : Matcher) : Pattern :=
  p.withSettings fun s => { s with chain := s.chain.insert m }

/-- Removes a matcher from the chain. -/
def erase (p : Pattern) (k : Kind) : Pattern :=
  p.withSettings fun s => { s with chain := s.chain.erase k }

/-- What an added matcher learns of the pattern. -/
def view (p : Pattern) : View :=
  ⟨p.text, p.settings.chain.kinds, p.settings.mode, p.settings.ignoreCase, p.depth⟩

/-- The text in lower case, for ASCII letters. -/
def asciiLower (s : List Char) : List Char := s.map Char.toLower

/-- Whether a text is a keyword under a case setting; case is ignored for ASCII letters only. -/
def isKeyword (ignoreCase : Bool) (text keyword : List Char) : Bool :=
  if ignoreCase then asciiLower text == asciiLower keyword else text == keyword

/-- Whether a text is a keyword under the settings of the pattern. -/
def textEquals (p : Pattern) (text keyword : List Char) : Bool :=
  isKeyword p.settings.ignoreCase text keyword

/-- The entry of the cache for a kind: `none` if the kind has never read the pattern. -/
def cached? (p : Pattern) (k : Kind) : Option (Option (Reading Pattern)) := p.cache.lookup k

/-- Sets the entry of the cache for a kind. -/
def store (p : Pattern) (k : Kind) (r : Option (Reading Pattern)) : Pattern :=
  { p with cache := (k, r) :: p.cache.filter (·.1 ≠ k) }

end Pattern

/-- Variables and their values, the last one bound first. -/
abbrev Bindings := List (String × Value)

/-- Binds a variable unless it is bound, and returns the value it has then. -/
def Bindings.bind (b : Bindings) (name : String) (v : Value) : Value × Bindings :=
  match b.lookup name with
  | some w => (w, b)
  | none => (v, (name, v) :: b)

/-- A record of a matcher reading a pattern. -/
structure Parse where
  kind : Kind
  label : Nat
  depth : Nat
  deriving DecidableEq

/-- What evaluating a pattern works on: the variables, and a log of all readings, the last one
first. -/
structure State where
  bindings : Bindings
  log : List Parse

/-- The state with no variables bound. -/
def State.clear (s : State) : State := { s with bindings := [] }

/-- The state with one more reading in the log. -/
def State.logged (s : State) (p : Pattern) (m : Matcher) : State :=
  let label := match m with
    | .builtIn _ => 0
    | .added a => a.label
  { s with log := ⟨m.kind, label, p.depth⟩ :: s.log }

end Sift
