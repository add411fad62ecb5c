import Sift.Regex.SetNodes
import Sift.Regex.WordTree

/-!
# The size of expressions

Expressions are limited in size, `maxSize`. The size is that of two automata that read the bytes
of a text: one from its start, which also notes where groups begin and end, and one from its end.
Both have to fit.

**States.** A byte of a literal and an assertion are one state each. Repetitions write their body
out for every round, and fork wherever a round may be left out or added.
-/

namespace Sift.Regex.Form

/-- The bytes of the literals, if all forms are literals and there are at least two. -/
def words? (direction : Direction) (forms : List Form) : Option WordTree.Words :=
  if forms.length < 2 then none
  else
    (forms.mapM text?).map fun texts => texts.map fun text =>
      match direction with
      | .forward => Unicode.encodeText text
      | .backward => (Unicode.encodeText text).reverse

mutual

/-- The extent of an automaton with the states for a form. -/
def extend (direction : Direction) : Form → Extent → Extent
  | empty, e => e.add 1
  | look _, e => e.add 1
  | literal text, e => e.add (Unicode.encodeText text).length
  | set s _, e => SetNodes.add direction s e
  | repetition body least most _, e =>
    match least, most with
    | 0, none =>
      if body.isAccepting && body.isProper then extend direction body (e.fork 2)
      else (((extend direction body e).fork 2).fork 2).add 1
    | least + 1, none => (e.growTimes (extend direction body) (least + 1)).fork 2
    | 0, some 1 => (extend direction body (e.fork 2)).add 1
    | least, some most =>
      if least = most then e.growTimes (extend direction body) least
      else
        let e := if least = 0 then e.add 1 else e.growTimes (extend direction body) least
        (e.add 1).growTimes (fun e => extend direction body (e.fork 2)) (most - least)
  | capture body, e =>
    match direction with
    | .forward => (extend direction body (e.add 1)).add 1
    | .backward => extend direction body e
  | concat parts, e => extendBySequence direction parts e
  | alternation branches, e =>
    match words? direction branches with
    | some words => WordTree.add words e
    | none => extendByBranches direction 0 branches e

/-- The extent with the states for a sequence, in the order in which it is read. -/
def extendBySequence (direction : Direction) : List Form → Extent → Extent
  | [], e => e
  | f :: rest, e =>
    match direction with
    | .forward => extendBySequence direction rest (extend direction f e)
    | .backward => extend direction f (extendBySequence direction rest e)

/-- The extent with the states for branches, of which `before` have been laid out. The fork to all
branches and their common end follow the second branch. -/
def extendByBranches (direction : Direction) (before : Nat) : List Form → Extent → Extent
  | [], e => e
  | f :: rest, e =>
    let e := extend direction f e
    extendByBranches direction (before + 1) rest
      (if before = 1 then (e.fork (2 + rest.length)).add 1 else e)

end

/-- The extent of the automaton that searches for a form. Unless the form is anchored, the
automaton starts with a loop that skips bytes; the whole form is a group, and a last state tells
that it has been found. -/
def automaton (direction : Direction) (f : Form) : Extent :=
  let start :=
    if f.isAnchored direction then Extent.empty.add 1
    else ((Extent.empty.fork 2).add 1).switch 1
  (f.capture.extend direction start).add 1

/-- Whether a form is not too large. -/
def fits (f : Form) : Bool :=
  (f.automaton .forward).fits && (f.automaton .backward).fits

end Sift.Regex.Form
