import Sift.Regex.NodeTable
import Sift.Unicode.Encoding

/-!
# The states for sets of characters

A set of ASCII characters is one state that switches. Any other set is a tree of the sequences of
byte ranges that make it up, whose nodes are shared where a table remembers them.

**Forward** a node switches by the next byte, and what follows it is laid out before it, so that
equal endings of sequences are the same nodes. **Backward** every sequence is a chain that ends
with its first byte; a fork leads to the chains, and those that begin alike share what comes last.
-/

namespace Sift.Regex.SetNodes

open Sift.Unicode

/-- How many places the table has that is kept while reading forward. -/
def forwardPlaces : Nat := 10000

/-- How many places the table has that is kept while reading backward. -/
def backwardPlaces : Nat := 1000

/-- Lays out what follows a place in a tree of sequences, and gives the state there. A sequence is
at most four ranges long, so that `depth` need be no more. -/
def addForward (goal : Nat) : (depth : Nat) → List (List ByteRange) → Draft → Nat × Draft
  | 0, _, d => (goal, d)
  | depth + 1, sequences, d =>
    if sequences.all List.isEmpty then (goal, d)
    else
      let groups := sequences.splitBy fun a b => a.head? == b.head?
      let (links, d) := groups.foldl (fun (links, d) group =>
        match group with
        | (range :: _) :: _ =>
          let (target, d) := addForward goal depth (group.map List.tail) d
          (target :: range.2 :: range.1 :: links, d)
        | _ => (links, d)) ([], d)
      d.node links.reverse (linkSize * groups.length)

/-- Lays out a chain that leads to the goal when its ranges are read from the last to the first. -/
def addBackward (goal : Nat) (sequence : List ByteRange) (d : Draft) : Draft :=
  (sequence.foldl (fun (target, d) range => d.node [target, range.1, range.2] 0) (goal, d)).2

/-- The extent with the states for a set. -/
def add (direction : Direction) (s : CodeSet) (e : Extent) : Extent :=
  if s.isAscii then (e.add 1).switch s.ranges.length
  else
    let sequences := s.byteSequences
    match direction with
    | .forward =>
      (addForward e.states 4 sequences ⟨e.add 1, .empty forwardPlaces⟩).2.extent
    | .backward =>
      let start := (e.fork sequences.length).add 1
      (sequences.foldl (fun d sequence => addBackward (e.states + 1) sequence d)
        ⟨start, .empty backwardPlaces⟩).extent

end Sift.Regex.SetNodes
