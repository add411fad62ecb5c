import Sift.Pattern.Dialects
import Sift.Value.Path

/-!
# Evaluating patterns

A pattern judges a value by asking the matchers of its chain one after the other; the first
determinate verdict counts. Sub-patterns are evaluated in turn, with the same variables.

**Variables.** A root pattern starts with no variables bound, and leaves none bound unless it
matches. Derived patterns leave the variables to their root.

**Levels.** A pattern evaluates only patterns derived from it, and derivation ends at the depth
limit, so `evaluateWithin` recurs on the number of levels that are left.

**Caches.** Evaluation returns the pattern with what it has read on the way, its sub-patterns
included.
-/

namespace Sift

namespace Pattern

/-- A way of evaluating patterns: the verdict on a value, and the pattern and the state after
it. -/
abbrev Evaluator := Pattern → Value → State → Verdict × Pattern × State

/-- What a judgement needs: the verdict, the reading after it, and the state after it. -/
abbrev Judgement := Verdict × Option (Reading Pattern) × State

/-! ## Lists of patterns and values -/

/-- Whether every pattern matches the value at its place. -/
def matchEach (ev : Evaluator) :
    List Pattern → List Value → State → Bool × List Pattern × State
  | p :: ps, v :: vs, s =>
    let (verdict, p, s) := ev p v s
    if verdict = .isMatch then
      let (matched, ps, s) := matchEach ev ps vs s
      (matched, p :: ps, s)
    else (false, p :: ps, s)
  | ps, _, s => (true, ps, s)

/-- Whether a pattern matches some value. -/
def matchSome (ev : Evaluator) (p : Pattern) : List Value → State → Bool × Pattern × State
  | [], s => (false, p, s)
  | v :: vs, s =>
    let (verdict, p, s) := ev p v s
    if verdict = .isMatch then (true, p, s) else matchSome ev p vs s

/-- Whether every pattern matches some value. -/
def matchAllSome (ev : Evaluator) (vs : List Value) :
    List Pattern → State → Bool × List Pattern × State
  | [], s => (true, [], s)
  | p :: ps, s =>
    let (matched, p, s) := matchSome ev p vs s
    if matched then
      let (matched, ps, s) := matchAllSome ev vs ps s
      (matched, p :: ps, s)
    else (false, p :: ps, s)

/-- Whether every pattern matches one value. -/
def matchAll (ev : Evaluator) (v : Value) :
    List Pattern → State → Bool × List Pattern × State
  | [], s => (true, [], s)
  | p :: ps, s =>
    let (verdict, p, s) := ev p v s
    if verdict = .isMatch then
      let (matched, ps, s) := matchAll ev v ps s
      (matched, p :: ps, s)
    else (false, p :: ps, s)

/-! ## Dialects -/

/-- A star matches every value. -/
def judgeAnything (p : Pattern) : Verdict :=
  if Text.trim p.text = ['*'] then .isMatch else .indeterminate

/-- `null` asks for null, and `empty` for a text, list or map of size zero. -/
def judgeNullOrEmpty (p : Pattern) (v : Value) : Verdict :=
  let text := Text.trim p.text
  if p.textEquals text ['n', 'u', 'l', 'l'] then .ofBool v.isNull
  else if p.textEquals text ['e', 'm', 'p', 't', 'y'] then
    match v.size? with
    | some n => .ofBool (n == 0)
    | none => .indeterminate
  else .indeterminate

/-- A variable takes its first value and then asks for an equal one. -/
def judgeCapture (r : Option (Reading Pattern)) (v : Value) (s : State) : Judgement :=
  match r with
  | some (.capture name) =>
    let (bound, bindings) := Bindings.bind s.bindings name v
    (.ofBool (bound.equals v), r, { s with bindings })
  | _ => (.indeterminate, r, s)

/-- A negation takes the opposite verdict. -/
def judgeNegation (ev : Evaluator) (r : Option (Reading Pattern)) (v : Value) (s : State) :
    Judgement :=
  match r with
  | some (.negation operand) =>
    let (verdict, operand, s) := ev operand v s
    (verdict.negate, some (.negation operand), s)
  | _ => (.indeterminate, r, s)

/-- A glob covers whole texts. -/
def judgeGlob (r : Option (Reading Pattern)) (v : Value) : Verdict :=
  match r, v with
  | some (.glob g), .string t => .ofBool (g.covers t.toList)
  | _, _ => .indeterminate

/-- A comparison tests a number. -/
def judgeComparison (r : Option (Reading Pattern)) (v : Value) : Verdict :=
  match r, v with
  | some (.comparison c), .number x => .ofBool (c.holds x)
  | _, _ => .indeterminate

/-- A range contains a number. -/
def judgeRange (r : Option (Reading Pattern)) (v : Value) : Verdict :=
  match r, v with
  | some (.range i), .number x => .ofBool (i.contains x)
  | _, _ => .indeterminate

/-- A list of patterns matches a list of values, by places or by containment. A failure is left to
later matchers. -/
def judgeList (ev : Evaluator) (mode : Mode) (r : Option (Reading Pattern)) (v : Value)
    (s : State) : Judgement :=
  match r, v with
  | some (.list items), .list vs =>
    let (matched, items, s) := match mode with
      | .exact =>
        if vs.length = items.length then matchEach ev items vs s else (false, items, s)
      | .inclusive => matchAllSome ev vs items s
    (.matchOrDefer matched, some (.list items), s)
  | _, _ => (.indeterminate, r, s)

/-- A regular expression occurs in a text. -/
def judgeRegex (r : Option (Reading Pattern)) (v : Value) : Verdict :=
  match r, v with
  | some (.regex e), .string t => .ofBool (e.occurs t.toList)
  | _, _ => .indeterminate

/-- Property patterns match the same value, all of them. A failure is left to later matchers. -/
def judgeFields (ev : Evaluator) (r : Option (Reading Pattern)) (v : Value) (s : State) :
    Judgement :=
  match r with
  | some (.fields groups) =>
    let (matched, groups, s) := matchAll ev v groups s
    (.matchOrDefer matched, some (.fields groups), s)
  | _ => (.indeterminate, r, s)

/-- A property pattern matches the value at the end of a path; null has no properties. A failure
is left to later matchers. -/
def judgeProperty (ev : Evaluator) (r : Option (Reading Pattern)) (v : Value) (s : State) :
    Judgement :=
  match r with
  | some (.property names sub) =>
    if v.isNull then (.indeterminate, r, s)
    else
      let (verdict, sub, s) := ev sub (v.path names) s
      (.matchOrDefer (verdict = .isMatch), some (.property names sub), s)
  | _ => (.indeterminate, r, s)

/-- The judgement of a dialect on a value. -/
def judgeDialect (ev : Evaluator) (p : Pattern) (r : Option (Reading Pattern)) (v : Value)
    (s : State) : Dialect → Judgement
  | .anything => (p.judgeAnything, r, s)
  | .nullOrEmpty => (p.judgeNullOrEmpty v, r, s)
  | .capture => judgeCapture r v s
  | .negation => judgeNegation ev r v s
  | .glob => (judgeGlob r v, r, s)
  | .comparison => (judgeComparison r v, r, s)
  | .range => (judgeRange r v, r, s)
  | .list => judgeList ev p.settings.mode r v s
  | .regex => (judgeRegex r v, r, s)
  | .multiField => judgeFields ev r v s
  | .property => judgeProperty ev r v s

/-- The judgement of a matcher on a value. -/
def judge (ev : Evaluator) (p : Pattern) (r : Option (Reading Pattern)) (v : Value) (s : State) :
    Matcher → Judgement
  | .builtIn d => judgeDialect ev p r v s d
  | .added a => (a.judge v (r.bind Matcher.dataOf) p.view, r, s)

/-! ## The chain -/

/-- The pattern with a reading that judging has worked on put back. -/
def putBack (p : Pattern) (k : Kind) : Option (Reading Pattern) → Pattern
  | some r => p.store k (some r)
  | none => p

/-- Asks the matchers one after the other. -/
def dispatch (ev : Evaluator) : List Matcher → Evaluator
  | [], p, _, s => (.indeterminate, p, s)
  | m :: ms, p, v, s =>
    let (reading, p, s) := p.ensureRead m false s
    let (verdict, reading, s) := judge ev p reading v s m
    let p := p.putBack m.kind reading
    if verdict.isDeterminate then (verdict, p, s) else dispatch ev ms p v s

/-- Evaluates a pattern of which at most the given number of levels can be derived. -/
def evaluateWithin : (levels : Nat) → Evaluator
  | 0, p, _, s => (.indeterminate, p, s)
  | levels + 1, p, v, s =>
    if p.isRoot then
      let (verdict, p, s) :=
        dispatch (evaluateWithin levels) p.settings.chain.matchers p v s.clear
      (verdict, p, if verdict = .isMatch then s else s.clear)
    else dispatch (evaluateWithin levels) p.settings.chain.matchers p v s

/-- The levels of patterns that can still be derived, the pattern's own included. -/
def levels (p : Pattern) : Nat := p.settings.depthLimit - p.depth + 1

/-- Evaluates a pattern on a value. -/
def evaluate (p : Pattern) (v : Value) (s : State) : Verdict × Pattern × State :=
  evaluateWithin p.levels p v s

/-- Has every matcher of the chain read the pattern. -/
def readAll (p : Pattern) (force : Bool) (s : State) : Pattern × State :=
  p.settings.chain.matchers.foldl
    (fun (p, s) m => let (_, p, s) := p.ensureRead m force s; (p, s)) (p, s)

/-- Has the matcher of one kind read the pattern; the first part of the result says whether there
is one. -/
def readKind (p : Pattern) (k : Kind) (force : Bool) (s : State) : Bool × Pattern × State :=
  match p.settings.chain.get? k with
  | some m => let (_, p, s) := p.ensureRead m force s; (true, p, s)
  | none => (false, p, s)

/-- What the matcher of one kind has read, reading now if need be. -/
def reading? (p : Pattern) (k : Kind) (s : State) :
    Option (Reading Pattern) × Pattern × State :=
  match p.settings.chain.get? k with
  | some m => p.ensureRead m false s
  | none => (none, p, s)

/-- Evaluates a pattern on its own: the verdict and the variables bound. -/
def run (p : Pattern) (v : Value) : Verdict × Bindings :=
  let (verdict, _, s) := p.evaluate v ⟨[], []⟩
  (verdict, s.bindings)

/-- Whether a pattern matches a value. -/
def isMatch (p : Pattern) (v : Value) : Bool := (p.run v).1 = .isMatch

end Pattern

end Sift
