import Sift.Unicode.CodeSet
import Sift.Unicode.Property

/-!
# Regular expressions

A `Regex` is what an expression means once its flags are applied: sets of characters, assertions
about the place between two characters, and how they are put together.

**Meaning.** `Regex.Accepts r before text after` says that `r` accepts `text` standing between
`before` and `after`; assertions are the reason why the neighbours matter.
-/

namespace Sift

namespace Regex

/-- An assertion about the words at a place. -/
inductive WordLook where
  | boundary
  | noBoundary
  | start
  | stop
  | startHalf
  | stopHalf
  deriving DecidableEq

/-- An assertion about a place. Lines end at line feeds, with `carriageReturns` also at carriage
returns, and never between the two. -/
inductive Look where
  | textStart
  | textEnd
  | lineStart (carriageReturns : Bool)
  | lineEnd (carriageReturns : Bool)
  | word (look : WordLook) (unicode : Bool)
  deriving DecidableEq

/-- A place in a text: the characters before and after it, if there are any. -/
structure Place where
  before : Option Char
  after : Option Char

/-- Whether a neighbour of a place belongs to a word. -/
def Place.isWordAt (unicode : Bool) : Option Char → Bool
  | none => false
  | some c => if unicode then Unicode.isWord c else c.isAlphanum || c == '_'

/-- Whether an assertion about words holds, given whether the neighbours belong to words. -/
def WordLook.holds (before after : Bool) : WordLook → Bool
  | boundary => before != after
  | noBoundary => before == after
  | start => !before && after
  | stop => before && !after
  | startHalf => !before
  | stopHalf => !after

/-- Whether an assertion holds at a place. -/
def Look.holds (p : Place) : Look → Bool
  | textStart => p.before == none
  | textEnd => p.after == none
  | lineStart false => p.before == none || p.before == some '\n'
  | lineEnd false => p.after == none || p.after == some '\n'
  | lineStart true =>
    p.before == none || p.before == some '\n' ||
      (p.before == some '\r' && p.after != some '\n')
  | lineEnd true =>
    p.after == none || p.after == some '\r' ||
      (p.after == some '\n' && p.before != some '\r')
  | word look unicode =>
    look.holds (Place.isWordAt unicode p.before) (Place.isWordAt unicode p.after)

end Regex

/-- A regular expression. A repetition without `most` has no upper end. -/
inductive Regex where
  | empty
  | look (l : Regex.Look)
  | char (s : Unicode.CodeSet)
  | concat (first second : Regex)
  | alternate (left right : Regex)
  | rounds (r : Regex) (least : Nat) (most : Option Nat)

namespace Regex

/-- The expressions one after the other. -/
def concatAll : List Regex → Regex
  | [] => empty
  | [r] => r
  | r :: rest => concat r (concatAll rest)

/-- The expressions as alternatives. -/
def alternateAll : List Regex → Regex
  | [] => empty
  | [r] => r
  | r :: rest => alternate r (alternateAll rest)

/-- The last character before a place that `text` leads up to. -/
def lastBefore (before : Option Char) (text : List Char) : Option Char :=
  match text.getLast? with
  | some c => some c
  | none => before

/-- The first character after a place that `text` follows. -/
def firstAfter (text : List Char) (after : Option Char) : Option Char :=
  match text with
  | c :: _ => some c
  | [] => after

/-- `Accepts r before text after`: the expression accepts the text where it stands between the two
neighbours. -/
inductive Accepts : Regex → Option Char → List Char → Option Char → Prop
  | empty {b a} : Accepts .empty b [] a
  | look {l b a} : Look.holds ⟨b, a⟩ l = true → Accepts (.look l) b [] a
  | char {s c b a} : s.contains c = true → Accepts (.char s) b [c] a
  | concat {r₁ r₂ s₁ s₂ b a} :
      Accepts r₁ b s₁ (firstAfter s₂ a) → Accepts r₂ (lastBefore b s₁) s₂ a →
      Accepts (.concat r₁ r₂) b (s₁ ++ s₂) a
  | left {r₁ r₂ s b a} : Accepts r₁ b s a → Accepts (.alternate r₁ r₂) b s a
  | right {r₁ r₂ s b a} : Accepts r₂ b s a → Accepts (.alternate r₁ r₂) b s a
  | stop {r most b a} : Accepts (.rounds r 0 most) b [] a
  | round {r least most s₁ s₂ b a} : most ≠ some 0 →
      Accepts r b s₁ (firstAfter s₂ a) →
      Accepts (.rounds r (least - 1) (most.map (· - 1))) (lastBefore b s₁) s₂ a →
      Accepts (.rounds r least most) b (s₁ ++ s₂) a

/-- Whether the expression accepts some part of a text. -/
def Occurs (r : Regex) (text : List Char) : Prop :=
  ∃ front part back, text = front ++ part ++ back ∧
    Accepts r front.getLast? part back.head?

end Regex

end Sift
