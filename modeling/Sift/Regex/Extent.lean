import Sift.Regex.Form

/-!
# The extent of automata

An automaton grows state by state, and an `Extent` counts what it has become: the states, and the
room taken by the lists that some of them hold. A state that *switches* leads on by the range that
the next byte is in, one that *forks* leads on without reading.
-/

namespace Sift.Regex

/-- What one state takes. -/
def stateSize : Nat := 32

/-- What one range of bytes takes in a list. -/
def linkSize : Nat := 8

/-- What one branch takes in a list. -/
def branchSize : Nat := 4

/-- The greatest size that is accepted. -/
def maxSize : Nat := 10 * 1024 * 1024

/-- How large an automaton is: its states, and what their lists take. -/
structure Extent where
  states : Nat
  lists : Nat

namespace Extent

/-- The automaton without states. -/
def empty : Extent := ⟨0, 0⟩

/-- The size of an automaton. -/
def size (e : Extent) : Nat := stateSize * e.states + e.lists

/-- Whether an automaton is not too large. -/
def fits (e : Extent) : Bool := e.size ≤ maxSize

/-- One state more, with a list that takes some room. -/
def addWith (lists : Nat) (e : Extent) : Extent := ⟨e.states + 1, e.lists + lists⟩

/-- Some states more, which have no lists. -/
def add (states : Nat) (e : Extent) : Extent := ⟨e.states + states, e.lists⟩

/-- One state more that forks. -/
def fork (branches : Nat) (e : Extent) : Extent := e.addWith (branchSize * branches)

/-- One state more that switches. -/
def switch (links : Nat) (e : Extent) : Extent := e.addWith (linkSize * links)

/-- Grows an automaton some times over, or until it is too large. -/
def growTimes (grow : Extent → Extent) : Nat → Extent → Extent
  | 0, e => e
  | n + 1, e => if e.fits then growTimes grow n (grow e) else e

end Extent

end Sift.Regex
