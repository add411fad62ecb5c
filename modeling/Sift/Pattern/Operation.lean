import Sift.Pattern.Evaluate

/-!
# Operations on a pattern

What can be done with a pattern once it is there: judging values, reading the text ahead of time,
binding variables, and changing the settings or the chain.

**Answers.** Every operation has an answer, and leaves a pattern and a state behind. A change has
the answer `done`, except that removing a matcher tells whether there was one.

**Caches.** Every change of the settings or of the chain forgets what was read, even if it changes
nothing. Questions about the chain keep it.

**Sub-patterns.** What a matcher has read may hold patterns. Who asks for the reading gets the very
patterns that the matcher works with, and may perform operations on them.
-/

namespace Sift

/-! ## Sub-patterns -/

namespace Reading

variable {P : Type}

/-- The sub-pattern at a place of a reading. A negation and a property have a single one, whatever
the place. -/
def part? : Reading P → Nat → Option P
  | negation p, _ | property _ p, _ => some p
  | list ps, i | fields ps, i => ps[i]?
  | _, _ => none

/-- The reading with another sub-pattern at a place. -/
def setPart : Reading P → Nat → P → Reading P
  | negation _, _, p => negation p
  | property names _, _, p => property names p
  | list ps, i, p => list (ps.set i p)
  | fields ps, i, p => fields (ps.set i p)
  | r, _, _ => r

end Reading

/-! ## Operations -/

/-- An operation on a pattern. -/
inductive Operation where
  /-- Judges a value. -/
  | evaluate (v : Value)
  /-- Asks whether a value is matched. -/
  | ask (v : Value)
  /-- Has all matchers read the text. -/
  | readAll (force : Bool)
  /-- Has one matcher read the text. -/
  | readKind (k : Kind) (force : Bool)
  /-- Asks what one matcher has read. -/
  | reading (k : Kind)
  /-- Binds a variable unless it is bound. -/
  | bind (name : String) (v : Value)
  /-- Asks for the value of a variable. -/
  | binding (name : String)
  | setMode (mode : Mode)
  | setIgnoreCase (ignoreCase : Bool)
  | insert (m : Matcher)
  | erase (k : Kind)
  | contains (k : Kind)
  | position (k : Kind)
  | matcher (k : Kind)
  | size
  /-- Compares a text with a keyword. -/
  | textEquals (text keyword : List Char)
  /-- Performs an operation on a sub-pattern of what one matcher has read. -/
  | onPart (k : Kind) (i : Nat) (o : Operation)

/-- The answer to an operation. -/
inductive Answer where
  | done
  | verdict (v : Verdict)
  | truth (b : Bool)
  | reading (r : Option (Reading Pattern))
  | value (v : Option Value)
  | place (i : Option Nat)
  | matcher (m : Option Matcher)
  | size (n : Nat) (isEmpty : Bool)

/-- Works on a sub-pattern of what one matcher has read, which is kept with the sub-pattern as it is
afterwards. -/
def Pattern.onPart (p : Pattern) (k : Kind) (i : Nat)
    (f : Pattern → State → Answer × Pattern × State) (s : State) : Answer × Pattern × State :=
  let (r, p, s) := p.reading? k s
  match r with
  | some r =>
    match r.part? i with
    | some q =>
      let (answer, q, s) := f q s
      (answer, p.store k (some (r.setPart i q)), s)
    | none => (.done, p, s)
  | none => (.done, p, s)

/-- Performs an operation. -/
def Operation.perform (p : Pattern) (s : State) : Operation → Answer × Pattern × State
  | evaluate v =>
    let (verdict, p, s) := p.evaluate v s
    (.verdict verdict, p, s)
  | ask v =>
    let (verdict, p, s) := p.evaluate v s
    (.truth (verdict = .isMatch), p, s)
  | readAll force =>
    let (p, s) := p.readAll force s
    (.done, p, s)
  | readKind k force =>
    let (found, p, s) := p.readKind k force s
    (.truth found, p, s)
  | reading k =>
    let (r, p, s) := p.reading? k s
    (.reading r, p, s)
  | bind name v =>
    let (w, bindings) := Bindings.bind s.bindings name v
    (.value (some w), p, { s with bindings })
  | binding name => (.value (s.bindings.lookup name), p, s)
  | setMode mode => (.done, p.setMode mode, s)
  | setIgnoreCase ignoreCase => (.done, p.setIgnoreCase ignoreCase, s)
  | insert m => (.done, p.insert m, s)
  | erase k => (.truth (p.settings.chain.contains k), p.erase k, s)
  | contains k => (.truth (p.settings.chain.contains k), p, s)
  | position k => (.place (p.settings.chain.position? k), p, s)
  | matcher k => (.matcher (p.settings.chain.get? k), p, s)
  | size => (.size p.settings.chain.size p.settings.chain.isEmpty, p, s)
  | textEquals text keyword => (.truth (p.textEquals text keyword), p, s)
  | onPart k i o => p.onPart k i (fun q s => o.perform q s) s

end Sift
