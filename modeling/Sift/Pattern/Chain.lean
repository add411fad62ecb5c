import Sift.Pattern.Verdict
import Sift.Value.Basic

/-!
# Matchers and chains

A *matcher* is one way of reading a pattern's text and of judging values by what it read. The
built-in matchers are the dialects; a host may add matchers of its own. A *chain* lists matchers
in the order in which they are asked.

**Kinds.** Matchers of one kind replace each other, so a chain holds at most one of each kind
(`Chain.nodup`). Inserting a matcher of a kind that is there keeps its place; a new kind goes to
the end.
-/

namespace Sift

/-- How a pattern of several parts relates to a list: part by part, or each part to some
element. -/
inductive Mode where
  | exact
  | inclusive
  deriving DecidableEq

/-- The built-in ways of reading a pattern. -/
inductive Dialect where
  | anything
  | nullOrEmpty
  | capture
  | negation
  | glob
  | comparison
  | range
  | list
  | regex
  | multiField
  | property
  deriving DecidableEq

/-- The kind of a matcher. -/
inductive Kind where
  | builtIn (d : Dialect)
  | added (name : String)
  deriving DecidableEq

/-- What an added matcher learns of the pattern it works for. -/
structure View where
  text : List Char
  kinds : List Kind
  mode : Mode
  ignoreCase : Bool
  depth : Nat

/-- A matcher of the host. What it reads from a pattern is kept as a value; `label` tells the
instances of one kind apart. -/
structure Added where
  name : String
  label : Nat
  /-- The name that is shown. Matchers of several kinds may share it. -/
  title : String := name
  /-- Reads the text of a pattern. -/
  read : View → Option Value
  /-- Whether to read before judging, given whether the pattern was never read by this kind, and
  what is kept from reading it. -/
  shouldRead : Bool → Option Value → View → Bool
  /-- Judges a value by what was read. -/
  judge : Value → Option Value → View → Verdict

/-- A dialect, or a matcher of the host. -/
inductive Matcher where
  | builtIn (d : Dialect)
  | added (a : Added)

/-- The kind of a matcher. -/
def Matcher.kind : Matcher → Kind
  | builtIn d => .builtIn d
  | added a => .added a.name

/-- The name of a dialect. -/
def Dialect.name : Dialect → String
  | anything => "AnythingMatcher"
  | nullOrEmpty => "NullOrEmptyMatcher"
  | capture => "VariableMatcher"
  | negation => "NegationMatcher"
  | glob => "WildcardMatcher"
  | comparison => "ComparisonMatcher"
  | range => "RangeMatcher"
  | list => "ListMatcher"
  | regex => "RegexMatcher"
  | multiField => "MultiFieldMatcher"
  | property => "PropertyMatcher"

/-- The name of a matcher. -/
def Matcher.name : Matcher → String
  | builtIn d => d.name
  | added a => a.title

/-- Matchers in the order in which they are asked. -/
structure Chain where
  matchers : List Matcher
  nodup : (matchers.map Matcher.kind).Nodup

namespace Chain

/-- The chain without matchers. -/
def empty : Chain := ⟨[], by simp⟩

/-- The kinds of the matchers, in order. -/
def kinds (c : Chain) : List Kind := c.matchers.map Matcher.kind

/-- Whether a matcher of a kind is in the chain. -/
def contains (c : Chain) (k : Kind) : Bool := c.kinds.contains k

/-- The place of a kind in the chain. -/
def position? (c : Chain) (k : Kind) : Option Nat := c.kinds.findIdx? (· = k)

/-- The matcher of a kind. -/
def get? (c : Chain) (k : Kind) : Option Matcher := c.matchers.find? (·.kind = k)

/-- The names of the matchers, in order. -/
def names (c : Chain) : List String := c.matchers.map Matcher.name

def size (c : Chain) : Nat := c.matchers.length

def isEmpty (c : Chain) : Bool := c.matchers.isEmpty

/-- Puts a matcher where one of its kind stands. -/
def replaceIn (m : Matcher) (ms : List Matcher) : List Matcher :=
  ms.map fun n => if n.kind = m.kind then m else n

theorem map_kind_replaceIn (m : Matcher) (ms : List Matcher) :
    (replaceIn m ms).map Matcher.kind = ms.map Matcher.kind := by
  induction ms with
  | nil => rfl
  | cons n ms ih =>
    simp only [replaceIn, List.map_cons] at ih ⊢
    split
    · next h => rw [h, ih]
    · rw [ih]

/-- Replaces the matcher of the same kind in place, or adds a new kind at the end. -/
def insert (c : Chain) (m : Matcher) : Chain :=
  if h : m.kind ∈ c.kinds then
    ⟨replaceIn m c.matchers, by rw [map_kind_replaceIn]; exact c.nodup⟩
  else
    ⟨c.matchers ++ [m], by
      rw [List.map_append]
      refine List.nodup_append.2 ⟨c.nodup, by simp, ?_⟩
      intro a ha b hb hab
      simp only [List.map_cons, List.map_nil, List.mem_singleton] at hb
      exact h (hb ▸ hab ▸ ha)⟩

/-- Removes the matcher of a kind. -/
def erase (c : Chain) (k : Kind) : Chain :=
  ⟨c.matchers.filter (·.kind ≠ k), by
    exact c.nodup.sublist (List.filter_sublist.map Matcher.kind)⟩

/-- A chain with one more matcher, for building chains. -/
def adding (c : Chain) (m : Matcher) : Chain := c.insert m

/-- The chain of the given matchers, inserted one after the other. -/
def ofList (ms : List Matcher) : Chain := ms.foldl adding empty

end Chain

/-- The dialects in the order in which they are asked. -/
def Dialect.all : List Dialect :=
  [anything, nullOrEmpty, capture, negation, glob, comparison, range, list, regex, multiField,
    property]

/-- The chain of all dialects. -/
def Chain.standard : Chain := ⟨Dialect.all.map Matcher.builtIn, by decide⟩

end Sift
