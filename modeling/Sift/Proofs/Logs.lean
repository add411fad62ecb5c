import Sift.Proofs.Activities

/-!
# The log makes no difference

The log of readings is shared by all patterns of a session, but nothing looks at it. Whatever is
done with a pattern depends on the pattern and the variables alone: two runs whose logs differ give
the same answer, and leave the same pattern and the same variables (`Operation.ignoresLog_perform`).

**Blind activities.** An activity that does not look at the log is *blind* (`Activity.IsBlind`).
What is made of blind activities is blind, so evaluating a pattern is blind if evaluating its
sub-patterns is. No assumption is made about caches here. A cache may hold anything at all.
-/

namespace Sift

/-- Two outcomes are the same but for the log. -/
structure SameButLog {α β : Type} (r r' : α × β × State) : Prop where
  answer : r.1 = r'.1
  rest : r.2.1 = r'.2.1
  bindings : r.2.2.bindings = r'.2.2.bindings

/-- The outcome depends on the variables but not on the log. -/
def IgnoresLog {α β : Type} (f : State → α × β × State) : Prop :=
  ∀ s s', s.bindings = s'.bindings → SameButLog (f s) (f s')

/-! ## Activities -/

namespace Activity

variable {P α β : Type}

/-- Whatever the activity works on, the outcome does not depend on the log. -/
def IsBlind (f : Activity P α) : Prop := ∀ p, IgnoresLog (f p)

theorem isBlind_answer (a : α) : IsBlind (answer a : Activity P α) :=
  fun _ _ _ hs => ⟨rfl, rfl, hs⟩

theorem IsBlind.andThen {f : Activity P α} {g : α → Activity P β} (hf : IsBlind f)
    (hg : ∀ a, IsBlind (g a)) : IsBlind (f.andThen g) := by
  intro p s s' hs
  obtain ⟨ha, hp, hb⟩ := hf p s s' hs
  simp only [Activity.andThen, ha, hp]
  exact hg _ _ _ _ hb

theorem isBlind_allOf {fs : Nat → Option (Activity P Bool)} (h : ∀ i f, fs i = some f → IsBlind f) :
    IsBlind (allOf fs) := by
  intro ps
  induction ps generalizing fs with
  | nil => exact fun s s' hs => ⟨rfl, rfl, hs⟩
  | cons p ps ih =>
    intro s s' hs
    cases hf : fs 0 with
    | none =>
      simp only [allOf, hf]
      exact ⟨rfl, rfl, hs⟩
    | some f =>
      obtain ⟨ha, hp, hb⟩ := h 0 f hf p s s' hs
      simp only [allOf, hf, ha, hp]
      split_ifs
      · obtain ⟨ha', hps, hb'⟩ := ih (fun i => h (i + 1)) _ _ hb
        exact ⟨ha', congrArg ((f p s').2.1 :: ·) hps, hb'⟩
      · exact ⟨rfl, rfl, hb⟩

end Activity

namespace Pattern

open Activity

variable {ev : Evaluator}

theorem compositional_isBlind : Compositional IsBlind IsBlind where
  answer := isBlind_answer
  andThen := IsBlind.andThen
  allOf := isBlind_allOf
  ofLength n hf := by
    intro ps s s' hs
    simp only [ofLength]
    split_ifs
    · exact hf ps s s' hs
    · exact ⟨rfl, rfl, hs⟩

/-! ## Matchers -/

/-- **Judging looks at the log no more than evaluating sub-patterns does.** -/
theorem isBlind_judge (h : ∀ v, IsBlind fun p s => ev p v s) (p : Pattern) (v : Value)
    (m : Matcher) : IsBlind fun r s => judge ev p r v s m := by
  intro r s s' hs
  cases m with
  | added a => exact ⟨rfl, rfl, hs⟩
  | builtIn d =>
    cases r with
    | none => cases d <;> exact ⟨rfl, rfl, hs⟩
    | some r =>
      cases d with
      | anything | nullOrEmpty | glob | comparison | range | regex => exact ⟨rfl, rfl, hs⟩
      | capture =>
        cases r with
        | capture name =>
          simp only [judge, judgeDialect, judgeCapture, hs]
          exact ⟨rfl, rfl, rfl⟩
        | _ => exact ⟨rfl, rfl, hs⟩
      | negation =>
        cases r with
        | negation q =>
          obtain ⟨hv, hq, hb⟩ := h v q s s' hs
          exact ⟨congrArg Verdict.negate hv, congrArg (some ∘ Reading.negation) hq, hb⟩
        | _ => exact ⟨rfl, rfl, hs⟩
      | list =>
        cases r with
        | list items =>
          cases v with
          | list vs =>
            have hlist := compositional_isBlind.matchList h p.settings.mode vs
            obtain ⟨ha, hps, hb⟩ := hlist items s s' hs
            exact ⟨congrArg Verdict.matchOrDefer ha, congrArg (some ∘ Reading.list) hps, hb⟩
          | _ => exact ⟨rfl, rfl, hs⟩
        | _ => exact ⟨rfl, rfl, hs⟩
      | multiField =>
        cases r with
        | fields groups =>
          obtain ⟨ha, hps, hb⟩ := compositional_isBlind.matchAll h v groups s s' hs
          exact ⟨congrArg Verdict.matchOrDefer ha, congrArg (some ∘ Reading.fields) hps, hb⟩
        | _ => exact ⟨rfl, rfl, hs⟩
      | property =>
        cases r with
        | property names q =>
          obtain ⟨hv, hq, hb⟩ := h (v.path names) q s s' hs
          simp only [judge, judgeDialect, judgeProperty]
          split_ifs
          · exact ⟨rfl, rfl, hs⟩
          · simp only [hv, hq]
            exact ⟨rfl, rfl, hb⟩
        | _ => exact ⟨rfl, rfl, hs⟩

theorem ignoresLog_ensureRead (p : Pattern) (m : Matcher) (force : Bool) :
    IgnoresLog (p.ensureRead m force) := by
  intro s s' hs
  simp only [ensureRead]
  split_ifs
  · exact ⟨rfl, rfl, hs⟩
  · exact ⟨rfl, rfl, hs⟩

theorem isBlind_step (h : ∀ v, IsBlind fun p s => ev p v s) (v : Value) (m : Matcher) :
    IsBlind (step ev v m) := by
  intro p s s' hs
  obtain ⟨hr, hp, hb⟩ := ignoresLog_ensureRead p m false s s' hs
  obtain ⟨hv, hr₂, hb₂⟩ := isBlind_judge h (p.ensureRead m false s').2.1 v m _ _ _ hb
  simp only [step, hr, hp]
  exact ⟨hv, congrArg ((p.ensureRead m false s').2.1.putBack m.kind) hr₂, hb₂⟩

/-! ## Whole patterns -/

/-- **Evaluation does not look at the log**, at any level. -/
theorem isBlind_evaluateWithin (n : Nat) (v : Value) :
    IsBlind fun p s => evaluateWithin n p v s := by
  induction n generalizing v with
  | zero => exact isBlind_answer Verdict.indeterminate
  | succ n ih =>
    intro p s s' hs
    have hdispatch : ∀ ms, IsBlind fun p s => dispatch (evaluateWithin n) ms p v s :=
      fun _ => compositional_isBlind.dispatch fun m _ => isBlind_step ih v m
    have hchain := hdispatch p.settings.chain.matchers p
    by_cases root : p.isRoot = true
    · obtain ⟨hv, hp, hb⟩ := hchain s.clear s'.clear rfl
      simp only [evaluateWithin, root, ↓reduceIte, hv, hp]
      refine ⟨rfl, rfl, ?_⟩
      split_ifs
      · exact hb
      · rfl
    · simp only [evaluateWithin, root, Bool.false_eq_true, ↓reduceIte]
      exact hchain s s' hs

/-! ## Operations -/

theorem ignoresLog_readAll (p : Pattern) (force : Bool) :
    IgnoresLog fun s => (Answer.done, p.readAll force s) := by
  intro s s' hs
  simp only [readAll]
  induction p.settings.chain.matchers generalizing p s s' with
  | nil => exact ⟨rfl, rfl, hs⟩
  | cons m ms ih =>
    obtain ⟨-, hp, hb⟩ := ignoresLog_ensureRead p m force s s' hs
    simp only [List.foldl_cons, hp]
    exact ih _ _ _ hb

theorem ignoresLog_readKind (p : Pattern) (k : Kind) (force : Bool) :
    IgnoresLog (p.readKind k force) := by
  intro s s' hs
  unfold readKind
  cases p.settings.chain.get? k with
  | none => exact ⟨rfl, rfl, hs⟩
  | some m =>
    obtain ⟨-, hp, hb⟩ := ignoresLog_ensureRead p m force s s' hs
    exact ⟨rfl, hp, hb⟩

theorem ignoresLog_reading? (p : Pattern) (k : Kind) : IgnoresLog (p.reading? k) := by
  intro s s' hs
  unfold reading?
  cases p.settings.chain.get? k with
  | none => exact ⟨rfl, rfl, hs⟩
  | some m => exact ignoresLog_ensureRead p m false s s' hs

theorem ignoresLog_onPart (p : Pattern) (k : Kind) (i : Nat)
    {f : Activity Pattern Answer} (hf : IsBlind f) :
    IgnoresLog (p.onPart k i f) := by
  intro s s' hs
  obtain ⟨hr, hp, hb⟩ := ignoresLog_reading? p k s s' hs
  simp only [onPart, hr, hp]
  cases (p.reading? k s').1 with
  | none => exact ⟨rfl, rfl, hb⟩
  | some r =>
    dsimp only
    cases r.part? i with
    | none => exact ⟨rfl, rfl, hb⟩
    | some q =>
      obtain ⟨ha, hq, hb'⟩ := hf q _ _ hb
      simp only [ha, hq]
      exact ⟨rfl, rfl, hb'⟩

end Pattern

/-- **No operation looks at the log.** -/
theorem Operation.ignoresLog_perform (o : Operation) (p : Pattern) : IgnoresLog (o.perform p) := by
  induction o generalizing p with
  | evaluate v | ask v =>
    intro s s' hs
    obtain ⟨hv, hp, hb⟩ := Pattern.isBlind_evaluateWithin p.levels v p s s' hs
    simp only [perform, Pattern.evaluate, hv, hp]
    exact ⟨rfl, rfl, hb⟩
  | readAll force => exact Pattern.ignoresLog_readAll p force
  | readKind k force =>
    intro s s' hs
    obtain ⟨ha, hp, hb⟩ := Pattern.ignoresLog_readKind p k force s s' hs
    exact ⟨congrArg Answer.truth ha, hp, hb⟩
  | reading k =>
    intro s s' hs
    obtain ⟨hr, hp, hb⟩ := Pattern.ignoresLog_reading? p k s s' hs
    exact ⟨congrArg Answer.reading hr, hp, hb⟩
  | bind name v =>
    intro s s' hs
    simp only [perform, hs]
    exact ⟨rfl, rfl, rfl⟩
  | binding name =>
    intro s s' hs
    simp only [perform, hs]
    exact ⟨rfl, rfl, hs⟩
  | onPart k i o ih => exact Pattern.ignoresLog_onPart p k i ih
  | _ => exact fun s s' hs => ⟨rfl, rfl, hs⟩

end Sift
