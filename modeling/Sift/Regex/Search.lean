import Sift.Regex.Basic

/-!
# Searching

A text is searched from left to right with *marks* on the expression: a character set is marked
when the text read so far can end with a character it accepted. One step moves the marks past one
character, so a search takes time in proportion to the length of the text and the size of the
expression, whatever the expression is.

**Live parts.** Marks come into a part of an expression only through its start. A part that has no
marks and is not started is left alone, so that the many rounds of a repetition which a text never
reaches take no time.

**Assertions.** They read nothing, so they are decided at the place between the last character and
the next one: `exits` follows the marks through them to the end of an expression.
-/

namespace Sift.Regex

/-- An expression with marks. Repetitions are written out; `live` says whether a composed part has
a mark. -/
inductive Marked where
  | empty
  | look (l : Look)
  | char (s : Unicode.CodeSet) (marked : Bool)
  | concat (live : Bool) (first second : Marked)
  | alternate (live : Bool) (left right : Marked)
  | star (live : Bool) (r : Marked)

namespace Marked

/-- Whether an expression has a mark. -/
def isLive : Marked → Bool
  | empty => false
  | look _ => false
  | char _ marked => marked
  | concat live _ _ => live
  | alternate live _ _ => live
  | star live _ => live

/-- One expression and then another one. -/
def andThen (a b : Marked) : Marked := concat (a.isLive || b.isLive) a b

/-- One expression or another one. -/
def orElse (a b : Marked) : Marked := alternate (a.isLive || b.isLive) a b

/-- An expression any number of times. -/
def anyTimes (r : Marked) : Marked := star r.isLive r

/-- The expression `n` times, halved until one is left; `fuel` is at least the number of
halvings. -/
def power (r : Marked) : (fuel n : Nat) → Marked
  | 0, _ => empty
  | fuel + 1, n =>
    if n = 0 then empty
    else if n = 1 then r
    else
      let half := power r fuel (n / 2)
      if n % 2 = 0 then andThen half half else andThen r (andThen half half)

/-- A repetition written out. -/
def rounds (r : Marked) (least : Nat) : Option Nat → Marked
  | none => andThen (power r least least) (anyTimes r)
  | some most => andThen (power r least least) (power (orElse r empty) most (most - least))

/-- Whether the end of the expression can be reached at a place, from its marks or, if `entry`
holds, from its start. -/
def exits (p : Place) (entry : Bool) : Marked → Bool
  | empty => entry
  | look l => entry && l.holds p
  | char _ marked => marked
  | concat live a b => (entry || live) && exits p (exits p entry a) b
  | alternate live a b => (entry || live) && (exits p entry a || exits p entry b)
  | star live r => entry || (live && exits p entry r)

/-- The expression after one more character, read at a place. -/
def step (p : Place) (entry : Bool) (c : Char) : Marked → Marked
  | empty => empty
  | look l => look l
  | char s _ => char s (entry && s.contains c)
  | concat live a b =>
    if entry || live then andThen (step p entry c a) (step p (exits p entry a) c b)
    else concat live a b
  | alternate live a b =>
    if entry || live then orElse (step p entry c a) (step p entry c b) else alternate live a b
  | star live r =>
    if entry || live then anyTimes (step p (entry || exits p entry r) c r) else star live r

/-- Searches the rest of a text; the expression may start anywhere. -/
def search (before : Option Char) (m : Marked) : List Char → Bool
  | [] => exits ⟨before, none⟩ true m
  | c :: rest =>
    exits ⟨before, some c⟩ true m || search (some c) (step ⟨before, some c⟩ true c m) rest

end Marked

/-- The expression without marks. -/
def unmarked : Regex → Marked
  | empty => .empty
  | look l => .look l
  | char s => .char s false
  | concat a b => .andThen a.unmarked b.unmarked
  | alternate a b => .orElse a.unmarked b.unmarked
  | rounds r least most => .rounds r.unmarked least most

/-- Whether the expression accepts some part of a text. -/
def occurs (r : Regex) (text : List Char) : Bool := r.unmarked.search none text

end Sift.Regex
