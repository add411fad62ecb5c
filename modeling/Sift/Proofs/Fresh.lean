import Sift.Pattern.Evaluate

/-!
# Evaluating without caches

What a pattern makes of a value when nothing is kept: each matcher reads the text anew whenever it
is asked, at every level, and the only thing handed on is the list of variables. `Pattern.fresh`
is the yardstick for `Pattern.evaluate`, and later theories reason about it alone.

**Tests.** The dialects that take a text apart ask whether several patterns match. A `Test` is
such a question; `Test.all` and `Test.any` stop at the first answer that decides.
-/

namespace Sift

/-- A question with a yes or a no, which may bind variables. -/
abbrev Test := Bindings → Bool × Bindings

namespace Test

/-- Whether all tests succeed, asked one after the other up to the first failure. -/
def all : List Test → Test
  | [], b => (true, b)
  | t :: ts, b => if (t b).1 then all ts (t b).2 else (false, (t b).2)

/-- Whether some test succeeds, asked one after the other up to the first success. -/
def any : List Test → Test
  | [], b => (false, b)
  | t :: ts, b => if (t b).1 then (true, (t b).2) else any ts (t b).2

theorem all_cons_of_true {t : Test} {b : Bindings} (h : (t b).1 = true) (ts : List Test) :
    all (t :: ts) b = all ts (t b).2 := by
  simp [all, h]

theorem all_cons_of_false {t : Test} {b : Bindings} (h : (t b).1 = false) (ts : List Test) :
    all (t :: ts) b = (false, (t b).2) := by
  simp [all, h]

theorem any_cons_of_false {t : Test} {b : Bindings} (h : (t b).1 = false) (ts : List Test) :
    any (t :: ts) b = any ts (t b).2 := by
  simp [any, h]

end Test

/-- A success is a match, and a failure leaves the decision to later matchers. -/
def deferring (answer : Bool × Bindings) : Verdict × Bindings := (.matchOrDefer answer.1, answer.2)

namespace Pattern

/-- A way of judging values that keeps nothing but the variables. -/
abbrev Judge := Pattern → Value → Bindings → Verdict × Bindings

/-- Whether a pattern matches a value. -/
def asks (j : Judge) (p : Pattern) (v : Value) : Test := fun b =>
  ((j p v b).1 = .isMatch, (j p v b).2)

/-- Whether patterns match the elements of a list, by places or by containment. -/
def asksList (j : Judge) (items : List Pattern) (vs : List Value) : Mode → Test
  | .exact =>
    if vs.length = items.length then .all (List.zipWith (asks j) items vs) else fun b => (false, b)
  | .inclusive => .all (items.map fun p => .any (vs.map (asks j p)))

/-- The verdict of a dialect on a value, given what it has read. -/
def verdictOf (j : Judge) (p : Pattern) (r : Option (Reading Pattern)) (v : Value) (b : Bindings) :
    Dialect → Verdict × Bindings
  | .anything => (p.judgeAnything, b)
  | .nullOrEmpty => (p.judgeNullOrEmpty v, b)
  | .capture =>
    match r with
    | some (.capture name) => (.ofBool ((b.bind name v).1.equals v), (b.bind name v).2)
    | _ => (.indeterminate, b)
  | .negation =>
    match r with
    | some (.negation q) => ((j q v b).1.negate, (j q v b).2)
    | _ => (.indeterminate, b)
  | .glob => (judgeGlob r v, b)
  | .comparison => (judgeComparison r v, b)
  | .range => (judgeRange r v, b)
  | .list =>
    match r, v with
    | some (.list items), .list vs => deferring (asksList j items vs p.settings.mode b)
    | _, _ => (.indeterminate, b)
  | .regex => (judgeRegex r v, b)
  | .multiField =>
    match r with
    | some (.fields groups) => deferring (Test.all (groups.map fun q => asks j q v) b)
    | _ => (.indeterminate, b)
  | .property =>
    match r with
    | some (.property names q) =>
      if v.isNull then (.indeterminate, b) else deferring (asks j q (v.path names) b)
    | _ => (.indeterminate, b)

/-- The verdict of a matcher on a value, given what it has read. -/
def verdictFrom (j : Judge) (p : Pattern) (r : Option (Reading Pattern)) (v : Value)
    (b : Bindings) : Matcher → Verdict × Bindings
  | .builtIn d => verdictOf j p r v b d
  | .added a => (a.judge v (r.bind Matcher.dataOf) p.view, b)

/-- The first determinate verdict of some matchers, each of which reads the text when asked. -/
def firstVerdict (j : Judge) : List Matcher → Judge
  | [], _, _, b => (.indeterminate, b)
  | m :: ms, p, v, b =>
    let r := verdictFrom j p (m.read p) v b m
    if r.1.isDeterminate then r else firstVerdict j ms p v r.2

/-- The verdict of the matchers of a chain on a value, sub-patterns being judged by `j`. -/
def chainVerdict (j : Judge) : Judge := fun p => firstVerdict j p.settings.chain.matchers p

/-- One level of judging: a root pattern starts with no variables, and leaves none unless it
matches. -/
def judgeLevel (j : Judge) : Judge := fun p v b =>
  if p.isRoot then
    let r := chainVerdict j p v []
    (r.1, if r.1 = .isMatch then r.2 else [])
  else chainVerdict j p v b

/-- Judges by a pattern of which at most the given number of levels can be derived. -/
def freshWithin : (levels : Nat) → Judge
  | 0, _, _, b => (.indeterminate, b)
  | levels + 1, p, v, b =>
    if p.isRoot then
      let r := chainVerdict (freshWithin levels) p v []
      (r.1, if r.1 = .isMatch then r.2 else [])
    else chainVerdict (freshWithin levels) p v b

/-- Judges a value by a pattern, all matchers reading the text anew. -/
def fresh (p : Pattern) (v : Value) (b : Bindings) : Verdict × Bindings :=
  freshWithin p.levels p v b

/-! ## Small facts -/

variable {j : Judge} {p : Pattern} {v : Value} {b : Bindings}

theorem firstVerdict_cons_of_indeterminate {m : Matcher} {b' : Bindings}
    (h : verdictFrom j p (m.read p) v b m = (.indeterminate, b')) (ms : List Matcher) :
    firstVerdict j (m :: ms) p v b = firstVerdict j ms p v b' := by
  simp [firstVerdict, h, Verdict.isDeterminate]

theorem firstVerdict_cons_of_determinate {m : Matcher} {r : Verdict × Bindings}
    (h : verdictFrom j p (m.read p) v b m = r) (hr : r.1 ≠ .indeterminate) (ms : List Matcher) :
    firstVerdict j (m :: ms) p v b = r := by
  simp [firstVerdict, h, Verdict.isDeterminate, hr]

/-- The last matcher has the last word. -/
theorem firstVerdict_singleton (m : Matcher) :
    firstVerdict j [m] p v b = verdictFrom j p (m.read p) v b m := by
  by_cases h : (verdictFrom j p (m.read p) v b m).1 = .indeterminate
  · rw [firstVerdict_cons_of_indeterminate (Prod.ext h rfl)]
    exact Prod.ext h.symm rfl
  · exact firstVerdict_cons_of_determinate rfl h []

theorem freshWithin_succ (n : Nat) : freshWithin (n + 1) = judgeLevel (freshWithin n) := rfl

theorem freshWithin_of_isRoot (root : p.isRoot = true) (n : Nat) :
    freshWithin (n + 1) p v b =
      ((chainVerdict (freshWithin n) p v []).1,
        if (chainVerdict (freshWithin n) p v []).1 = .isMatch then
          (chainVerdict (freshWithin n) p v []).2 else []) := by
  simp [freshWithin, root]

theorem freshWithin_of_not_isRoot (derived : p.isRoot = false) (n : Nat) :
    freshWithin (n + 1) p v b = chainVerdict (freshWithin n) p v b := by
  simp [freshWithin, derived]

/-- A root pattern starts with no variables, whatever was bound before. -/
theorem fresh_of_isRoot (root : p.isRoot = true) (v : Value) (b : Bindings) :
    p.fresh v b = p.fresh v [] := by
  simp [fresh, levels, freshWithin_of_isRoot root]

/-- Matchers read the text under the settings; what was read before does not matter. -/
@[simp] theorem read_forget (p : Pattern) (m : Matcher) : m.read p.forget = m.read p := by
  cases m with
  | builtIn d => cases d <;> rfl
  | added a => rfl

@[simp] theorem levels_forget (p : Pattern) : p.forget.levels = p.levels := rfl

@[simp] theorem derive_forget (p : Pattern) (text : List Char) :
    p.forget.derive text = p.derive text := rfl

end Pattern

end Sift
