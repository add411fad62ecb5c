import Sift.Regex.Extent

/-!
# Trees of words

Alternatives that are all words share the states for what they begin with. A node of their tree is
reached by the same bytes of several words, and holds what is left of these words in their order of
preference. A word that ends at the node comes after the words before it and ahead of those behind
it, so it parts them into *runs*; the node forks to every run and to the common end of all words,
and every run is a state that switches.

A node that is left by no word any more is the common end itself.
-/

namespace Sift.Regex.WordTree

/-- What is left of words, in their order of preference. -/
abbrev Words := List (List Nat)

/-- The runs of words between those that have ended. -/
def runs : Words → List Words
  | [] => []
  | [] :: rest => [] :: runs rest
  | word :: rest =>
    match runs rest with
    | [] => [[word]]
    | run :: more => (word :: run) :: more

/-- How often a node forks to the common end: once for the words that have ended ahead of all
others, and once for every later word that has ended. -/
def ends (words : Words) : Nat :=
  (if words.head? = some [] then 1 else 0) +
    ((words.dropWhile List.isEmpty).filter List.isEmpty).length

/-- The words of a run by their first byte, without it. -/
def groups (run : Words) : List (Nat × Words) :=
  run.foldr (fun word groups =>
    match word with
    | [] => groups
    | b :: rest =>
      match groups.find? (·.1 = b) with
      | some (_, words) => (b, rest :: words) :: groups.filter (·.1 ≠ b)
      | none => (b, [rest]) :: groups) []

/-- The extent with the state for a run of words that begin with `bytes` different bytes; a single
byte needs no list. -/
def addRun (bytes : Nat) (e : Extent) : Extent := if bytes = 1 then e.add 1 else e.switch bytes

/-- The extent with the states of a node. The words are one byte shorter at every node, so that
the length of the longest one bounds the depth. -/
def addNode : (depth : Nat) → Words → Extent → Extent
  | 0, _, e => e
  | depth + 1, words, e =>
    if words.all List.isEmpty then e
    else
      let groupsOfRuns := ((runs words).filter (¬ ·.isEmpty)).map groups
      (groupsOfRuns.foldl (fun e groups =>
        groups.foldl (fun e group => addNode depth group.2 e) (addRun groups.length e))
        (e.fork (groupsOfRuns.length + ends words)))

/-- The extent with the common end and the states for words. -/
def add (words : Words) (e : Extent) : Extent :=
  addNode ((words.map List.length).foldl max 0 + 1) words (e.add 1)

end Sift.Regex.WordTree
