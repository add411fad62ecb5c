import Sift.Regex.Basic

/-!
# Simple forms of expressions

A `Form` is an expression whose flags are applied and that is put together by functions which keep
it simple: a set of one character is a literal, neighbouring literals are one, nested sequences and
alternations are flat, alternatives that are single characters are a set, and what all alternatives
begin with stands in front of them.

**Why the form matters.** It leaves the language as it is, which `Form.regex` gives, but the size
of an expression, for which there is a limit, is that of its form. So groups and the preference of
a repetition are kept, although no search asks for them.
-/

namespace Sift.Regex

open Sift.Unicode

/-- The order in which a text is read. -/
inductive Direction where
  | forward
  | backward
  deriving DecidableEq

/-- The assertion that holds only where reading starts. -/
def Direction.origin : Direction → Look
  | forward => .textStart
  | backward => .textEnd

/-- An expression in simple form. A literal has a character, a concatenation two parts and an
alternation two branches at least; `unicode` tells sets of characters from sets of bytes. -/
inductive Form where
  | empty
  | look (l : Look)
  | literal (text : List Char)
  | set (s : CodeSet) (unicode : Bool)
  | repetition (body : Form) (least : Nat) (most : Option Nat) (greedy : Bool)
  | capture (body : Form)
  | concat (parts : List Form)
  | alternation (branches : List Form)

namespace Form

/-! ## Properties -/

mutual

/-- Whether the form can only accept the empty text. -/
def isZeroWidth : Form → Bool
  | empty => true
  | look _ => true
  | literal _ => false
  | set _ _ => false
  | repetition body _ most _ => body.isZeroWidth || most == some 0
  | capture body => body.isZeroWidth
  | concat parts => areZeroWidth parts
  | alternation branches => areZeroWidth branches

/-- Whether all forms can only accept the empty text. -/
def areZeroWidth : List Form → Bool
  | [] => true
  | f :: rest => f.isZeroWidth && areZeroWidth rest

end

mutual

/-- Whether no set of the form is empty. -/
def isAccepting : Form → Bool
  | empty => true
  | look _ => true
  | literal _ => true
  | set s _ => s.boundaries.size ≠ 0
  | repetition body _ _ _ => body.isAccepting
  | capture body => body.isAccepting
  | concat parts => areAccepting parts
  | alternation branches => areAccepting branches

/-- Whether no set of the forms is empty. -/
def areAccepting : List Form → Bool
  | [] => true
  | f :: rest => f.isAccepting && areAccepting rest

end

mutual

/-- Whether the form does not accept the empty text. -/
def isProper : Form → Bool
  | empty => false
  | look _ => false
  | literal _ => true
  | set _ _ => true
  | repetition body least _ _ => least ≠ 0 && body.isProper
  | capture body => body.isProper
  | concat parts => isSomeProper parts
  | alternation branches => areProper branches

/-- Whether one of the forms does not accept the empty text. -/
def isSomeProper : List Form → Bool
  | [] => false
  | f :: rest => f.isProper || isSomeProper rest

/-- Whether none of the forms accepts the empty text. -/
def areProper : List Form → Bool
  | [] => true
  | f :: rest => f.isProper && areProper rest

end

mutual

/-- Whether the form asserts, before it reads anything, that reading starts. -/
def isAnchored (d : Direction) : Form → Bool
  | empty => false
  | look l => l = d.origin
  | literal _ => false
  | set _ _ => false
  | repetition body least _ _ => least ≠ 0 && body.isAnchored d
  | capture body => body.isAnchored d
  | concat parts => isSequenceAnchored d parts
  | alternation branches => areAnchored d branches

/-- Whether a sequence asserts, before it reads anything, that reading starts. -/
def isSequenceAnchored (d : Direction) : List Form → Bool
  | [] => false
  | f :: rest =>
    match d with
    | .forward => f.isAnchored d || (f.isZeroWidth && isSequenceAnchored d rest)
    | .backward => isSequenceAnchored d rest || (areZeroWidth rest && f.isAnchored d)

/-- Whether all forms assert that reading starts. -/
def areAnchored (d : Direction) : List Form → Bool
  | [] => true
  | f :: rest => f.isAnchored d && areAnchored d rest

end

mutual

/-- Whether the form is free of assertions and groups, so that a match is nothing but its text. -/
def isPlain : Form → Bool
  | empty => true
  | look _ => false
  | literal _ => true
  | set _ _ => true
  | repetition body _ _ _ => body.isPlain
  | capture _ => false
  | concat parts => arePlain parts
  | alternation branches => arePlain branches

/-- Whether all forms are free of assertions and groups. -/
def arePlain : List Form → Bool
  | [] => true
  | f :: rest => f.isPlain && arePlain rest

end

mutual

/-- Whether two forms are written alike. No two groups are the same group. -/
def same : Form → Form → Bool
  | empty, empty => true
  | look a, look b => a = b
  | literal a, literal b => a = b
  | set s u, set t v => s.boundaries = t.boundaries && u == v
  | repetition f l m g, repetition f' l' m' g' => l = l' && m = m' && g == g' && same f f'
  | concat fs, concat gs => areSame fs gs
  | alternation fs, alternation gs => areSame fs gs
  | _, _ => false

/-- Whether the forms of two lists are written alike. -/
def areSame : List Form → List Form → Bool
  | [], [] => true
  | f :: fs, g :: gs => same f g && areSame fs gs
  | _, _ => false

end

/-! ## Putting forms together -/

/-- The form that accepts nothing. -/
def nothing : Form := set .empty false

/-- The form for one character of a set. -/
def ofSet (unicode : Bool) (s : CodeSet) : Form :=
  let s := s.intersection .everything
  match s.ranges with
  | [] => nothing
  | [(lo, hi)] => if lo = hi then literal [Char.ofNat lo] else set s unicode
  | _ => set s unicode

/-- A repetition. Going round twice where no character is read says no more than going once. -/
def repeated (f : Form) (least : Nat) (most : Option Nat) (greedy : Bool) : Form :=
  let least := if f.isZeroWidth then min least 1 else least
  let most := if f.isZeroWidth then some (min (most.getD 1) 1) else most
  if most = some 0 then empty
  else if least = 1 ∧ most = some 1 then f
  else repetition f least most greedy

/-- A form in front of others. -/
def consPart (f : Form) (parts : List Form) : List Form :=
  match f, parts with
  | empty, parts => parts
  | literal a, literal b :: rest => literal (a ++ b) :: rest
  | f, parts => f :: parts

/-- The forms that stand one after the other in a form. -/
def parts : Form → List Form
  | concat parts => parts
  | f => [f]

/-- The forms one after the other. -/
def join (forms : List Form) : Form :=
  match (forms.flatMap parts).foldr consPart [] with
  | [] => empty
  | [f] => f
  | fs => concat fs

/-- The forms among which a form chooses. -/
def branches : Form → List Form
  | alternation branches => branches
  | f => [f]

/-- The character that a form stands for. -/
def char? : Form → Option Char
  | literal [c] => some c
  | _ => none

/-- The text that a form stands for. -/
def text? : Form → Option (List Char)
  | literal text => some text
  | _ => none

/-- The set that a form is. -/
def set? : Form → Option CodeSet
  | set s _ => some s
  | _ => none

/-- The set of some characters. -/
def setOfChars (chars : List Char) : CodeSet :=
  .ofRanges ((chars.map Char.toNat).mergeSort.eraseReps.map fun n => (n, n))

/-- The form that chooses among branches which are no alternations. -/
def choose (branches : List Form) : Form :=
  match branches with
  | [] => nothing
  | [f] => f
  | fs =>
    match fs.mapM char?, fs.mapM set? with
    | some chars, _ => ofSet true (setOfChars chars)
    | none, some sets => ofSet true (sets.foldl CodeSet.union .empty)
    | none, none => alternation fs

/-- What two sequences begin with. -/
def commonFront : List Form → List Form → List Form
  | f :: fs, g :: gs => if f.same g then f :: commonFront fs gs else []
  | _, _ => []

/-- What all branches begin with, if all are sequences. -/
def frontOfAll : List Form → List Form
  | concat fs :: rest =>
    rest.foldl (fun front f =>
      match f with
      | concat gs => commonFront front gs
      | _ => []) fs
  | _ => []

/-- The form that chooses among forms. -/
def alternate (forms : List Form) : Form :=
  let all := forms.flatMap branches
  let front := if all.length ≤ 1 then [] else frontOfAll all
  if front.isEmpty then choose all
  else
    let rests := all.map fun f => join (f.parts.drop front.length)
    join (front ++ [choose (rests.flatMap branches)])

/-! ## The language -/

/-- The expression that accepts one text. -/
def regexOfText (text : List Char) : Regex :=
  .concatAll (text.map fun c => .char (.range c.toNat c.toNat))

mutual

/-- The expression that a form is. -/
def regex : Form → Regex
  | empty => .empty
  | look l => .look l
  | literal text => regexOfText text
  | set s _ => .char s
  | repetition body least most _ => .rounds body.regex least most
  | capture body => body.regex
  | concat parts => .concatAll (regexes parts)
  | alternation branches => .alternateAll (regexes branches)

/-- The expressions that forms are. -/
def regexes : List Form → List Regex
  | [] => []
  | f :: rest => f.regex :: regexes rest

end

end Form

end Sift.Regex
