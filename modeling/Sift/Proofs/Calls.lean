import Sift.Proofs.Delegation

/-!
# Which patterns are evaluated

Evaluating a pattern evaluates sub-patterns in turn. `Pattern.watch` evaluates like
`Pattern.evaluate` and logs every evaluation on its way, its own included, next to the readings.

**Watching changes nothing.** Nothing looks at the log, so the watched evaluation mirrors fresh
judgement just as the plain one does (`mirrors_watchWithin`).

**Main result.** No pattern is evaluated that lies deeper than the text is long and the value is
nested, whatever the limit (`loggedTo_watch`): every step down takes a character of the text or a
list of the value.
-/

namespace Sift

/-- The state with an evaluation in the log, under a kind of its own. -/
def State.called (s : State) (p : Pattern) : State :=
  { s with log := ⟨.added "evaluation", 0, p.depth⟩ :: s.log }

/-- No entry of the log is about a pattern that lies deeper. -/
def State.LoggedTo (depth : Nat) (s : State) : Prop := ∀ e ∈ s.log, e.depth ≤ depth

namespace State.LoggedTo

variable {depth : Nat} {s : State} {p : Pattern}

theorem called (h : s.LoggedTo depth) (hp : p.depth ≤ depth) : (s.called p).LoggedTo depth :=
  List.forall_mem_cons.2 ⟨hp, h⟩

theorem logged (h : s.LoggedTo depth) (hp : p.depth ≤ depth) (m : Matcher) :
    (s.logged p m).LoggedTo depth :=
  List.forall_mem_cons.2 ⟨hp, h⟩

theorem clear (h : s.LoggedTo depth) : s.clear.LoggedTo depth := h

end State.LoggedTo

/-- Judging by what was read asks a sub-pattern about a value. -/
inductive Reading.Asks (v : Value) : Reading Pattern → Pattern → Value → Prop
  | operand {q : Pattern} : Asks v (.negation q) q v
  | element {qs : List Pattern} {q : Pattern} {vs : List Value} {w : Value} :
      q ∈ qs → v = .list vs → w ∈ vs → Asks v (.list qs) q w
  | group {qs : List Pattern} {q : Pattern} : q ∈ qs → Asks v (.fields qs) q v
  | member {names : List String} {q : Pattern} : Asks v (.property names q) q (v.path names)

namespace Pattern

variable {p q : Pattern} {v w : Value}

/-- Only parts of the text are asked, about what is handed on to them. -/
theorem delegates_of_asks {m : Matcher} {r : Reading Pattern} (hr : m.read p = some r)
    (h : r.Asks v q w) : ∃ t, q = p.derive t ∧ Delegates p.text v t w := by
  cases m with
  | added a =>
    obtain ⟨data, -, rfl⟩ := Option.map_eq_some_iff.1 hr
    cases h
  | builtIn d =>
    cases d with
    | anything | nullOrEmpty => cases hr
    | capture | glob | comparison | range | regex =>
      obtain ⟨data, -, rfl⟩ := Option.map_eq_some_iff.1 hr
      cases h
    | negation =>
      simp only [Matcher.read, Dialect.read, readNegation, Option.ite_none_right_eq_some,
        Option.map_eq_some_iff] at hr
      obtain ⟨-, t, ht, rfl⟩ := hr
      cases h
      exact ⟨t, rfl, .operand ht⟩
    | list =>
      simp only [Matcher.read, Dialect.read, readList, Option.ite_none_right_eq_some,
        Option.some.injEq] at hr
      obtain ⟨-, rfl⟩ := hr
      cases h with
      | element hq hv hw =>
        obtain ⟨t, ht, rfl⟩ := List.mem_map.1 hq
        exact ⟨t, rfl, .element ht hv hw⟩
    | multiField =>
      simp only [Matcher.read, Dialect.read, readFields, Option.ite_none_right_eq_some,
        Option.map_eq_some_iff] at hr
      obtain ⟨-, gs, hgs, rfl⟩ := hr
      cases h with
      | group hq =>
        obtain ⟨t, ht, rfl⟩ := List.mem_map.1 hq
        exact ⟨t, rfl, .group hgs ht⟩
    | property =>
      simp only [Matcher.read, Dialect.read, readProperty, Option.ite_none_right_eq_some,
        Option.map_eq_some_iff] at hr
      obtain ⟨-, ⟨names, t⟩, ht, rfl⟩ := hr
      cases h
      exact ⟨t, rfl, .member ht⟩

/-! ## Watching -/

/-- Evaluates a pattern of which at most the given number of levels can be derived, and logs every
evaluation. -/
def watchWithin : (levels : Nat) → Evaluator
  | 0, p, _, s => (.indeterminate, p, s.called p)
  | levels + 1, p, v, s => evaluateLevel (watchWithin levels) p v (s.called p)

/-- Evaluates a pattern on a value, and logs every evaluation. -/
def watch (p : Pattern) (v : Value) (s : State) : Verdict × Pattern × State :=
  watchWithin p.levels p v s

/-- **Watching changes no verdict and no variable.** -/
theorem mirrors_watchWithin (n : Nat) : Mirrors (watchWithin n) (freshWithin n) (Agrees n) := by
  induction n with
  | zero => exact ⟨fun _ _ _ => rfl, fun _ _ _ => rfl, fun hq _ _ => hq⟩
  | succ n ih =>
    exact ⟨fun hq v s => ih.level.verdict hq v (s.called _),
      fun hq v s => ih.level.bindings hq v (s.called _),
      fun hq v s => ih.level.keeps hq v (s.called _)⟩

/-! ## The log -/

/-- Evaluating any pattern that agrees with `q₀` logs nothing that lies deeper. -/
def LogsTo (ev : Evaluator) (R : Pattern → Pattern → Prop) (depth : Nat) (q₀ : Pattern)
    (v : Value) : Prop :=
  ∀ q, R q q₀ → ∀ s : State, s.LoggedTo depth → (ev q v s).2.2.LoggedTo depth

variable {ev : Evaluator} {j : Judge} {R : Pattern → Pattern → Prop} {depth : Nat}
  {qs qs₀ : List Pattern} {s : State}

theorem loggedTo_matchEach (hqs : List.Forall₂ R qs qs₀) {vs : List Value}
    (h : ∀ q₀ ∈ qs₀, ∀ w ∈ vs, LogsTo ev R depth q₀ w) (hs : s.LoggedTo depth) :
    (matchEach ev qs vs s).2.2.LoggedTo depth := by
  induction hqs generalizing vs s with
  | nil => exact hs
  | @cons q q₀ qs qs₀ hq hqs ih =>
    cases vs with
    | nil => exact hs
    | cons w vs =>
      have hstep := h q₀ List.mem_cons_self w List.mem_cons_self q hq s hs
      simp only [matchEach]
      split_ifs
      · exact ih (fun q₀' hq₀ w' hw =>
          h q₀' (List.mem_cons_of_mem q₀ hq₀) w' (List.mem_cons_of_mem w hw)) hstep
      · exact hstep

theorem loggedTo_matchAll (hqs : List.Forall₂ R qs qs₀)
    (h : ∀ q₀ ∈ qs₀, LogsTo ev R depth q₀ v) (hs : s.LoggedTo depth) :
    (matchAll ev v qs s).2.2.LoggedTo depth := by
  induction hqs generalizing s with
  | nil => exact hs
  | @cons q q₀ qs qs₀ hq hqs ih =>
    have hstep := h q₀ List.mem_cons_self q hq s hs
    simp only [matchAll]
    split_ifs
    · exact ih (fun q₀' hq₀ => h q₀' (List.mem_cons_of_mem q₀ hq₀)) hstep
    · exact hstep

theorem loggedTo_matchSome (hm : Mirrors ev j R) {q₀ : Pattern} (hq : R q q₀) {vs : List Value}
    (h : ∀ w ∈ vs, LogsTo ev R depth q₀ w) (hs : s.LoggedTo depth) :
    (matchSome ev q vs s).2.2.LoggedTo depth := by
  induction vs generalizing q s with
  | nil => exact hs
  | cons w vs ih =>
    have hstep := h w List.mem_cons_self q hq s hs
    simp only [matchSome]
    split_ifs
    · exact hstep
    · exact ih (hm.keeps hq w s) (fun w' hw => h w' (List.mem_cons_of_mem w hw)) hstep

theorem loggedTo_matchAllSome (hm : Mirrors ev j R) (hqs : List.Forall₂ R qs qs₀) {vs : List Value}
    (h : ∀ q₀ ∈ qs₀, ∀ w ∈ vs, LogsTo ev R depth q₀ w) (hs : s.LoggedTo depth) :
    (matchAllSome ev vs qs s).2.2.LoggedTo depth := by
  induction hqs generalizing s with
  | nil => exact hs
  | @cons q q₀ qs qs₀ hq hqs ih =>
    have hstep := loggedTo_matchSome hm hq (h q₀ List.mem_cons_self) hs
    simp only [matchAllSome]
    split_ifs
    · exact ih (fun q₀' hq₀ => h q₀' (List.mem_cons_of_mem q₀ hq₀)) hstep
    · exact hstep

/-- **Judging logs no more than its questions do.** -/
theorem loggedTo_judge (hm : Mirrors ev j R) (p : Pattern) {r r₀ : Option (Reading Pattern)}
    (hr : Reading.Kept R r r₀)
    (h : ∀ r', r₀ = some r' → ∀ q₀ w, r'.Asks v q₀ w → LogsTo ev R depth q₀ w)
    (hs : s.LoggedTo depth) (m : Matcher) :
    (judge ev p r v s m).2.2.LoggedTo depth := by
  cases hr with
  | none =>
    cases m with
    | added a => exact hs
    | builtIn d => cases d <;> exact hs
  | @some r r' hl =>
    have hask := h r' rfl
    cases m with
    | added a => exact hs
    | builtIn d =>
      cases d with
      | anything | nullOrEmpty | glob | comparison | range | regex => exact hs
      | capture => cases hl <;> exact hs
      | negation =>
        cases hl with
        | negation hq => exact hask _ _ .operand _ hq s hs
        | _ => exact hs
      | list =>
        cases hl with
        | list hqs =>
          cases v with
          | list vs =>
            simp only [judge, judgeDialect, judgeList]
            cases p.settings.mode with
            | exact =>
              dsimp only
              split_ifs
              · exact loggedTo_matchEach hqs
                  (fun q₀ hq₀ w hw => hask q₀ w (.element hq₀ rfl hw)) hs
              · exact hs
            | inclusive =>
              exact loggedTo_matchAllSome hm hqs
                (fun q₀ hq₀ w hw => hask q₀ w (.element hq₀ rfl hw)) hs
          | _ => exact hs
        | _ => exact hs
      | multiField =>
        cases hl with
        | fields hqs =>
          exact loggedTo_matchAll hqs (fun q₀ hq₀ => hask q₀ v (.group hq₀)) hs
        | _ => exact hs
      | property =>
        cases hl with
        | property names hq =>
          simp only [judge, judgeDialect, judgeProperty]
          split_ifs
          · exact hs
          · exact hask _ _ .member _ hq s hs
        | _ => exact hs

variable {n : Nat}

theorem loggedTo_ensureRead (hp : p.depth ≤ depth) (m : Matcher) (force : Bool)
    (hs : s.LoggedTo depth) : (p.ensureRead m force s).2.2.LoggedTo depth := by
  simp only [ensureRead]
  split_ifs
  · exact hs.logged hp m
  · exact hs

/-- **The chain logs no more than its questions do**, and its own readings. -/
theorem loggedTo_dispatch (hev : Mirrors ev j (Agrees n)) (hdepth : p.depth ≤ depth)
    (h : ∀ t w, Delegates p.text v t w → LogsTo ev (Agrees n) depth (p.derive t) w)
    {ms : List Matcher} (hms : ∀ m ∈ ms, m ∈ p.settings.chain.matchers) (hp : Coherent (n + 1) p)
    (hs : s.LoggedTo depth) : (dispatch ev ms p v s).2.2.LoggedTo depth := by
  induction ms generalizing p s with
  | nil => exact hs
  | cons m ms ih =>
    have hm := hms m List.mem_cons_self
    obtain ⟨hr, ⟨hf, hp₁⟩, -⟩ := hp.ensureRead hm false s
    have hs₁ := loggedTo_ensureRead hdepth m false hs
    simp only [dispatch]
    generalize p.ensureRead m false s = x at hr hf hp₁ hs₁ ⊢
    obtain ⟨r, p₁, s₁⟩ := x
    dsimp only at hr hf hp₁ hs₁ ⊢
    have hread : m.read p₁ = m.read p := by rw [← read_forget, hf, read_forget]
    have hs₂ : (judge ev p₁ r v s₁ m).2.2.LoggedTo depth := by
      refine loggedTo_judge hev p₁ hr (fun r' hr' q₀ w hask => ?_) hs₁ m
      obtain ⟨t, rfl, hd⟩ := delegates_of_asks hr' hask
      exact h t w hd
    obtain ⟨-, -, hr₂⟩ := hev.judge p₁ hr v s₁ m
    generalize judge ev p₁ r v s₁ m = y at hr₂ hs₂ ⊢
    obtain ⟨verdict, r₂, s₂⟩ := y
    dsimp only at hr₂ hs₂ ⊢
    have hm₁ : m ∈ p₁.settings.chain.matchers := by rwa [settings_eq_of_forget_eq hf]
    obtain ⟨hf₂, hp₂⟩ := hp₁.putBack hm₁ (by rwa [hread])
    rw [hf] at hf₂
    split_ifs
    · exact hs₂
    · -- The pattern is the same but for what it has read.
      have htext : (p₁.putBack m.kind r₂).text = p.text := congrArg (fun q => q.text) hf₂
      have hderive : ∀ t, (p₁.putBack m.kind r₂).derive t = p.derive t := fun t => by
        rw [← derive_forget, hf₂, derive_forget]
      refine ih (p := p₁.putBack m.kind r₂) ?_ (fun t w hd => ?_) ?_ hp₂ hs₂
      · exact (congrArg (fun q => q.depth) hf₂).trans_le hdepth
      · rw [hderive]
        exact h t w (htext ▸ hd)
      · rw [settings_eq_of_forget_eq hf₂]
        exact fun m' hm' => hms m' (List.mem_cons_of_mem m hm')

/-- **Every evaluation stays within reach**: it lies no deeper than the text of the first one is
long and the value is nested. -/
theorem logsTo_watchWithin (n : Nat) {q₀ : Pattern}
    (h : q₀.depth + q₀.text.length + v.nesting ≤ depth) :
    LogsTo (watchWithin n) (Agrees n) depth q₀ v := by
  induction n generalizing q₀ v with
  | zero =>
    rintro q ⟨rfl, -⟩ s hs
    exact hs.called (by change q.depth + _ + _ ≤ _ at h; omega)
  | succ n ih =>
    rintro q ⟨rfl, hq⟩ s hs
    have hdepth : q.depth ≤ depth := by change q.depth + _ + _ ≤ _ at h; omega
    have hcalled := hs.called (p := q) hdepth
    have hpart : ∀ t w, Delegates q.text v t w →
        LogsTo (watchWithin n) (Agrees n) depth (q.derive t) w := by
      intro t w hd
      have hlt := hd.measure_lt
      refine ih ?_
      change q.depth + q.text.length + v.nesting ≤ depth at h
      change q.depth + 1 + t.length + w.nesting ≤ depth
      omega
    have hlog : ∀ s' : State, s'.LoggedTo depth →
        (dispatch (watchWithin n) q.settings.chain.matchers q v s').2.2.LoggedTo depth :=
      fun _ hs' => loggedTo_dispatch (mirrors_watchWithin n) hdepth hpart (fun _ hm => hm) hq hs'
    simp only [watchWithin, evaluateLevel]
    split_ifs
    · exact hlog _ hcalled.clear
    · exact (hlog _ hcalled.clear).clear
    · exact hlog _ hcalled

/-! ## Patterns of their own -/

/-- Watching a new pattern gives its verdict and its variables. -/
theorem watch_root {settings : Settings} (hc : settings.chain.IsRegular) (text : List Char)
    (v : Value) :
    (((root settings text).watch v ⟨[], []⟩).1,
      ((root settings text).watch v ⟨[], []⟩).2.2.bindings) = (root settings text).run v := by
  have hp : Agrees (root settings text).levels (root settings text) (root settings text) :=
    ⟨rfl, coherent_of_cache_eq_nil (p := root settings text) hc rfl _⟩
  have h := mirrors_watchWithin (root settings text).levels
  rw [run_root hc]
  exact Prod.ext (h.verdict hp v ⟨[], []⟩) (h.bindings hp v ⟨[], []⟩)

/-- **Nothing deeper is evaluated** than the text is long and the value is nested. -/
theorem loggedTo_watch {settings : Settings} (hc : settings.chain.IsRegular) (text : List Char)
    (v : Value) :
    ((root settings text).watch v ⟨[], []⟩).2.2.LoggedTo (text.length + v.nesting) := by
  have hp : Agrees (root settings text).levels (root settings text) (root settings text) :=
    ⟨rfl, coherent_of_cache_eq_nil (p := root settings text) hc rfl _⟩
  refine logsTo_watchWithin _ ?_ _ hp _ (List.forall_mem_nil _)
  change 0 + text.length + v.nesting ≤ _
  omega

end Pattern

end Sift
