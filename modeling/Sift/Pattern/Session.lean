import Sift.Pattern.Operation

/-!
# Sessions

A session holds patterns under names and performs operations on them one after the other.

**Scopes.** Variables live in scopes. A new pattern and a fork of another one get a scope of their
own, with no variables bound. A derived pattern shares the scope of the pattern it comes from, so
that what one of them binds the other finds bound.
-/

namespace Sift

/-- A pattern of a session and the scope of its variables. -/
structure Session.Member where
  pattern : Pattern
  scope : Nat

/-- Patterns under names, scopes by number, and the log of all readings. -/
structure Session where
  members : List (String × Session.Member)
  scopes : List Bindings
  log : List Parse

namespace Session

/-- The session without patterns. -/
def empty : Session := ⟨[], [], []⟩

/-- The pattern with a name. -/
def get? (t : Session) (name : String) : Option Member := t.members.lookup name

/-- The variables of a scope. -/
def bindings (t : Session) (scope : Nat) : Bindings := (t.scopes[scope]?).getD []

/-- Puts a pattern under a name, in place of the one that had the name. -/
def put (t : Session) (name : String) (m : Member) : Session :=
  { t with members := (name, m) :: t.members.filter (·.1 ≠ name) }

/-- Puts a pattern with a scope of its own under a name. -/
def add (t : Session) (name : String) (p : Pattern) : Session :=
  { t.put name ⟨p, t.scopes.length⟩ with scopes := t.scopes ++ [[]] }

/-- A step of a session. -/
inductive Step where
  /-- Adds a root pattern. -/
  | create (name : String) (settings : Settings) (text : List Char)
  /-- Adds a copy of a pattern that has read nothing and has a scope of its own. -/
  | fork (name source : String)
  /-- Adds a pattern derived from another one. -/
  | derive (name source : String) (text : List Char)
  /-- Performs an operation on a pattern. -/
  | act (name : String) (o : Operation)

/-- Performs an operation on a pattern of the session. -/
def act (t : Session) (name : String) (m : Member) (o : Operation) : Answer × Session :=
  let (answer, p, s) := o.perform m.pattern ⟨t.bindings m.scope, t.log⟩
  (answer, { t.put name { m with pattern := p } with
    scopes := t.scopes.set m.scope s.bindings
    log := s.log })

/-- Takes a step; there is no answer if a pattern that it needs is missing. -/
def step? (t : Session) : Step → Option (Answer × Session)
  | .create name settings text => some (.done, t.add name (.root settings text))
  | .fork name source => (t.get? source).map fun m => (.done, t.add name m.pattern.forget)
  | .derive name source text =>
    (t.get? source).map fun m => (.done, t.put name ⟨m.pattern.derive text, m.scope⟩)
  | .act name o => (t.get? name).map fun m => t.act name m o

/-- How often the added matchers with a name and a label have read. -/
def countReadings (t : Session) (kind : Kind) (label : Nat) : Nat :=
  t.log.countP fun r => r.kind = kind ∧ r.label = label

end Session

end Sift
