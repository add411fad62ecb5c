import Std.Data.HashMap
import Sift.Regex.Extent

/-!
# Tables of nodes

Nodes that lead on in the same way can be one node. A `NodeTable` remembers nodes by what they lead
to, but only so many: the checksum of a node determines its place, and a node that comes to the
place of another one takes it, so that the other is forgotten.

A `Draft` is an automaton that grows while such a table is kept for it.
-/

namespace Sift.Regex

/-- A checksum in the manner of FNV-1a over words of 64 bits, which takes in a number at a time. -/
def checksum (numbers : List Nat) : UInt64 :=
  numbers.foldl (fun h n => (h ^^^ n.toUInt64) * 1099511628211) 14695981039346656037

/-- Nodes by their places. A node is told by the numbers that say where it leads. -/
structure NodeTable where
  places : Nat
  nodes : Std.HashMap Nat (List Nat × Nat)

namespace NodeTable

/-- A table without nodes. -/
def empty (places : Nat) : NodeTable := ⟨places, ∅⟩

/-- The place of a node. -/
def place (t : NodeTable) (key : List Nat) : Nat := (checksum key).toNat % t.places

/-- The state of a node that is remembered. -/
def find? (t : NodeTable) (key : List Nat) : Option Nat :=
  match t.nodes[t.place key]? with
  | some (found, state) => if found = key then some state else none
  | none => none

/-- The table with a node at its place. -/
def insert (t : NodeTable) (key : List Nat) (state : Nat) : NodeTable :=
  { t with nodes := t.nodes.insert (t.place key) (key, state) }

end NodeTable

/-- An automaton that grows, and the nodes that are remembered of it. -/
structure Draft where
  extent : Extent
  table : NodeTable

/-- The state of a node: the one that is remembered, or a new one whose list takes some room. -/
def Draft.node (key : List Nat) (lists : Nat) (d : Draft) : Nat × Draft :=
  match d.table.find? key with
  | some state => (state, d)
  | none => (d.extent.states, ⟨d.extent.addWith lists, d.table.insert key d.extent.states⟩)

end Sift.Regex
