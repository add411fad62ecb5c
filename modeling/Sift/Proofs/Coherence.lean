import Mathlib.Data.List.Forall2
import Mathlib.Data.List.Nodup
import Sift.Pattern.Adapter
import Sift.Proofs.Fresh
import Sift.Proofs.Parts

/-!
# Coherent caches

A cache is *coherent* if each entry is what a matcher of the chain reads from the text, and if the
patterns in it are again coherent, as deep as patterns can be derived.

**Main results.** Evaluating a pattern with a coherent cache gives the verdict and the variables
of `Pattern.fresh`, and leaves the same pattern with a coherent cache (`evaluate_of_coherent`).

**Regular matchers.** A matcher that has never read a pattern has to read it before it judges,
unless there is nothing to read for it. How often it reads again is up to the matcher: it reads the
same each time, since everything that changes how texts are read empties the cache.
-/

namespace Sift

/-- The entry of a key in a list of which all its entries have been replaced. -/
theorem lookup_cons_filter_ne {α β : Type} [DecidableEq α] (k k' : α) (x : β) (l : List (α × β)) :
    ((k, x) :: l.filter (·.1 ≠ k)).lookup k' = if k' = k then some x else l.lookup k' := by
  by_cases hk : k' = k
  · simp [hk]
  · have hb : (k' == k) = false := beq_eq_false_iff_ne.2 hk
    rw [List.lookup_cons, hb, if_neg hk]
    change (l.filter (·.1 ≠ k)).lookup k' = l.lookup k'
    induction l with
    | nil => rfl
    | cons e l ih =>
      by_cases he : e.1 = k
      · rw [List.filter_cons_of_neg (by simpa using he), ih, List.lookup_cons, he, hb]
      · rw [List.filter_cons_of_pos (by simpa using he), List.lookup_cons, List.lookup_cons, ih]

/-! ## Regular matchers -/

/-- The matcher reads a pattern that it has never read, unless there is nothing to read. -/
def Added.IsRegular (a : Added) : Prop :=
  ∀ view, a.shouldRead true none view = true ∨ a.read view = none

/-- A dialect, or a regular matcher of the host. -/
def Matcher.IsRegular : Matcher → Prop
  | .builtIn _ => True
  | .added a => a.IsRegular

/-- An adapted matcher is regular if it reads for the first time whenever it is asked. -/
theorem DataMatcher.isRegular {m : DataMatcher}
    (h : ∀ view, m.shouldRead true none view = true) : m.toMatcher.IsRegular :=
  fun view => .inl (h view)

/-- Adapted matchers that judge by the value have nothing to read. -/
theorem ValueMatcher.isRegular (m : ValueMatcher) : m.toMatcher.IsRegular := fun _ => .inr rfl

/-- All matchers of the chain are regular. -/
def Chain.IsRegular (c : Chain) : Prop := ∀ m ∈ c.matchers, m.IsRegular

theorem Chain.eq_of_kind_eq {c : Chain} {m m' : Matcher} (hm : m ∈ c.matchers)
    (hm' : m' ∈ c.matchers) (h : m.kind = m'.kind) : m = m' :=
  List.inj_on_of_nodup_map c.nodup hm hm' h

theorem Chain.IsRegular.insert {c : Chain} {m : Matcher} (hc : c.IsRegular) (hm : m.IsRegular) :
    (c.insert m).IsRegular := by
  intro n hn
  unfold Chain.insert at hn
  split at hn
  · simp only [Chain.replaceIn, List.mem_map] at hn
    obtain ⟨n', hn', rfl⟩ := hn
    split_ifs
    · exact hm
    · exact hc n' hn'
  · rcases List.mem_append.1 hn with hn | hn
    · exact hc n hn
    · rw [List.mem_singleton.1 hn]
      exact hm

theorem Chain.IsRegular.erase {c : Chain} (hc : c.IsRegular) (k : Kind) :
    (c.erase k).IsRegular :=
  fun m hm => hc m (List.mem_of_mem_filter hm)

/-! ## Readings that agree -/

/-- Two readings are alike and their sub-patterns are related one by one. -/
inductive Reading.Lift {P Q : Type} (R : P → Q → Prop) : Reading P → Reading Q → Prop
  | capture (name : String) : Lift R (.capture name) (.capture name)
  | negation {p : P} {q : Q} : R p q → Lift R (.negation p) (.negation q)
  | glob (g : Glob) : Lift R (.glob g) (.glob g)
  | comparison (c : Comparison) : Lift R (.comparison c) (.comparison c)
  | range (i : Interval) : Lift R (.range i) (.range i)
  | list {ps : List P} {qs : List Q} : List.Forall₂ R ps qs → Lift R (.list ps) (.list qs)
  | regex (r : Regex) : Lift R (.regex r) (.regex r)
  | fields {ps : List P} {qs : List Q} : List.Forall₂ R ps qs → Lift R (.fields ps) (.fields qs)
  | property (names : List String) {p : P} {q : Q} :
      R p q → Lift R (.property names p) (.property names q)
  | added (data : Value) : Lift R (.added data) (.added data)

/-- What is kept agrees with what is read. -/
abbrev Reading.Kept (R : Pattern → Pattern → Prop) :
    Option (Reading Pattern) → Option (Reading Pattern) → Prop :=
  Option.Rel (Reading.Lift R)

namespace Pattern

/-- The chain is regular, and the cache holds what its matchers read from the text, as far down
as the given number of levels. -/
def Coherent : (levels : Nat) → Pattern → Prop
  | 0, _ => True
  | levels + 1, p =>
    p.settings.chain.IsRegular ∧ ∀ k r, p.cached? k = some r →
      ∃ m ∈ p.settings.chain.matchers, m.kind = k ∧
        Reading.Kept (fun q q₀ => q.forget = q₀ ∧ Coherent levels q) r (m.read p)

/-- A pattern is the given one but for a coherent cache. -/
def Agrees (levels : Nat) (q q₀ : Pattern) : Prop := q.forget = q₀ ∧ Coherent levels q

theorem coherent_of_cache_eq_nil {p : Pattern} (hc : p.settings.chain.IsRegular)
    (h : p.cache = []) : ∀ n, Coherent n p
  | 0 => trivial
  | _ + 1 => ⟨hc, fun k r hr => by simp [cached?, h] at hr⟩

theorem agrees_derive {p : Pattern} (hc : p.settings.chain.IsRegular) (n : Nat)
    (text : List Char) : Agrees n (p.derive text) (p.derive text) :=
  ⟨rfl, coherent_of_cache_eq_nil (p := p.derive text) hc rfl n⟩

theorem forall₂_derive {p q : Pattern} {R : Pattern → Pattern → Prop} {texts : List (List Char)}
    (h : ∀ t ∈ texts, R (p.derive t) (q.derive t)) :
    List.Forall₂ R (texts.map p.derive) (texts.map q.derive) := by
  rw [List.forall₂_map_left_iff, List.forall₂_map_right_iff, List.forall₂_same]
  exact h

/-- Two readings made of the same find agree if they make the same of it. -/
theorem kept_map {α : Type} {R : Pattern → Pattern → Prop} {found : Option α}
    {f g : α → Reading Pattern} (h : ∀ a, found = some a → Reading.Lift R (f a) (g a)) :
    Reading.Kept R (found.map f) (found.map g) := by
  cases found with
  | none => exact .none
  | some a => exact .some (h a rfl)

/-- Two patterns with the same text read alike. All sub-patterns of what is read are derived from
them for pieces of the text, and they can derive if there are any. -/
theorem kept_read_of_text_eq {p q : Pattern} {R : Pattern → Pattern → Prop}
    (htext : p.text = q.text) (hcan : p.canDerive = q.canDerive) (hglob : p.readGlob = q.readGlob)
    (h : q.canDerive = true → ∀ t, t <:+: q.text → R (p.derive t) (q.derive t)) (d : Dialect) :
    Reading.Kept R (d.read p) (d.read q) := by
  cases d with
  | anything | nullOrEmpty => exact .none
  | capture =>
    simp only [Dialect.read, readCapture, htext]
    exact kept_map fun _ _ => .capture _
  | negation =>
    simp only [Dialect.read, readNegation, htext, hcan]
    split_ifs with hderives
    · refine kept_map fun t ht => .negation ?_
      exact h hderives t (suffix_of_operandOfNegation? ht).1.isInfix
    · exact .none
  | glob =>
    simp only [Dialect.read, hglob]
    exact kept_map fun g _ => .glob g
  | comparison =>
    simp only [Dialect.read, readComparison, htext]
    exact kept_map fun c _ => .comparison c
  | range =>
    simp only [Dialect.read, readRange, htext]
    exact kept_map fun i _ => .range i
  | list =>
    simp only [Dialect.read, readList, htext, hcan]
    split_ifs with hderives
    · exact .some (.list (forall₂_derive fun t ht => h hderives t (infix_of_mem_listItems ht)))
    · exact .none
  | regex =>
    simp only [Dialect.read, readRegex, htext]
    exact kept_map fun e _ => .regex e
  | multiField =>
    simp only [Dialect.read, readFields, htext, hcan]
    split_ifs with hderives
    · refine kept_map fun gs hgs => .fields (forall₂_derive fun t ht => ?_)
      exact h hderives t (infix_of_mem_fieldGroups? hgs ht).1
    · exact .none
  | property =>
    simp only [Dialect.read, readProperty, htext, hcan]
    split_ifs with hderives
    · refine kept_map fun r hr => .property r.1 ?_
      exact h hderives r.2 (suffix_of_pathAndRest? hr).1.isInfix
    · exact .none

/-- All sub-patterns of what is read just now are derived from the pattern, which can derive if
there are any. -/
theorem kept_read_of_derive {p : Pattern} {R : Pattern → Pattern → Prop}
    (h : p.canDerive = true → ∀ text, R (p.derive text) (p.derive text)) (m : Matcher) :
    Reading.Kept R (m.read p) (m.read p) := by
  cases m with
  | added a => exact kept_map fun data _ => .added data
  | builtIn d => exact kept_read_of_text_eq rfl rfl rfl (fun hcan t _ => h hcan t) d

/-- What is read just now has sub-patterns with empty caches. -/
theorem kept_read {p : Pattern} (hc : p.settings.chain.IsRegular) (n : Nat) (m : Matcher) :
    Reading.Kept (Agrees n) (m.read p) (m.read p) :=
  kept_read_of_derive (fun _ text => agrees_derive hc n text) m

/-! ## Evaluation mirrors fresh judgement -/

/-- An evaluator gives the verdicts and the variables of a judge, and what it makes of a pattern
stays related to the pattern that was judged. -/
structure Mirrors (ev : Evaluator) (j : Judge) (R : Pattern → Pattern → Prop) : Prop where
  verdict : ∀ {q q₀ : Pattern}, R q q₀ → ∀ v s, (ev q v s).1 = (j q₀ v s.bindings).1
  bindings : ∀ {q q₀ : Pattern}, R q q₀ → ∀ v s, (ev q v s).2.2.bindings = (j q₀ v s.bindings).2
  keeps : ∀ {q q₀ : Pattern}, R q q₀ → ∀ v s, R (ev q v s).2.1 q₀

/-- The answer of an evaluator about some patterns is the one of a test, and leaves the patterns
related to the ones that were asked. -/
structure Answers (R : Pattern → Pattern → Prop) (r : Bool × List Pattern × State)
    (t : Bool × Bindings) (qs₀ : List Pattern) : Prop where
  answer : r.1 = t.1
  bindings : r.2.2.bindings = t.2
  patterns : List.Forall₂ R r.2.1 qs₀

variable {ev : Evaluator} {j : Judge} {R : Pattern → Pattern → Prop}

namespace Mirrors

theorem asks_eq (h : Mirrors ev j R) {q q₀ : Pattern} (hq : R q q₀) (v : Value) (s : State) :
    asks j q₀ v s.bindings = (decide ((ev q v s).1 = .isMatch), (ev q v s).2.2.bindings) := by
  rw [asks, h.verdict hq, h.bindings hq]

theorem matchEach (h : Mirrors ev j R) {qs qs₀ : List Pattern} (hqs : List.Forall₂ R qs qs₀)
    (vs : List Value) (s : State) :
    Answers R (matchEach ev qs vs s) (Test.all (List.zipWith (asks j) qs₀ vs) s.bindings) qs₀ := by
  induction hqs generalizing vs s with
  | nil => exact ⟨rfl, rfl, .nil⟩
  | @cons q q₀ qs qs₀ hq hqs ih =>
    cases vs with
    | nil => exact ⟨rfl, rfl, .cons hq hqs⟩
    | cons v vs =>
      have hkeeps := h.keeps hq v s
      simp only [Pattern.matchEach, List.zipWith_cons_cons, Test.all, h.asks_eq hq,
        decide_eq_true_eq]
      by_cases hm : (ev q v s).1 = .isMatch
      · obtain ⟨ha, hb, hp⟩ := ih vs (ev q v s).2.2
        simp only [hm, ↓reduceIte]
        exact ⟨ha, hb, .cons hkeeps hp⟩
      · simp only [hm, ↓reduceIte]
        exact ⟨rfl, rfl, .cons hkeeps hqs⟩

theorem matchAll (h : Mirrors ev j R) {qs qs₀ : List Pattern} (hqs : List.Forall₂ R qs qs₀)
    (v : Value) (s : State) :
    Answers R (matchAll ev v qs s) (Test.all (qs₀.map fun q => asks j q v) s.bindings) qs₀ := by
  induction hqs generalizing s with
  | nil => exact ⟨rfl, rfl, .nil⟩
  | @cons q q₀ qs qs₀ hq hqs ih =>
    have hkeeps := h.keeps hq v s
    simp only [Pattern.matchAll, List.map_cons, Test.all, h.asks_eq hq, decide_eq_true_eq]
    by_cases hm : (ev q v s).1 = .isMatch
    · obtain ⟨ha, hb, hp⟩ := ih (ev q v s).2.2
      simp only [hm, ↓reduceIte]
      exact ⟨ha, hb, .cons hkeeps hp⟩
    · simp only [hm, ↓reduceIte]
      exact ⟨rfl, rfl, .cons hkeeps hqs⟩

theorem matchSome (h : Mirrors ev j R) {q q₀ : Pattern} (hq : R q q₀) (vs : List Value)
    (s : State) :
    (matchSome ev q vs s).1 = (Test.any (vs.map (asks j q₀)) s.bindings).1 ∧
      (matchSome ev q vs s).2.2.bindings = (Test.any (vs.map (asks j q₀)) s.bindings).2 ∧
      R (matchSome ev q vs s).2.1 q₀ := by
  induction vs generalizing q s with
  | nil => exact ⟨rfl, rfl, hq⟩
  | cons v vs ih =>
    have hkeeps := h.keeps hq v s
    simp only [Pattern.matchSome, List.map_cons, Test.any, h.asks_eq hq, decide_eq_true_eq]
    by_cases hm : (ev q v s).1 = .isMatch
    · simp only [hm, ↓reduceIte]
      exact ⟨trivial, trivial, hkeeps⟩
    · simp only [hm, ↓reduceIte]
      exact ih hkeeps (ev q v s).2.2

theorem matchAllSome (h : Mirrors ev j R) {qs qs₀ : List Pattern} (hqs : List.Forall₂ R qs qs₀)
    (vs : List Value) (s : State) :
    Answers R (matchAllSome ev vs qs s)
      (Test.all (qs₀.map fun q => Test.any (vs.map (asks j q))) s.bindings) qs₀ := by
  induction hqs generalizing s with
  | nil => exact ⟨rfl, rfl, .nil⟩
  | @cons q q₀ qs qs₀ hq hqs ih =>
    obtain ⟨hfst, hsnd, hkeeps⟩ := h.matchSome hq vs s
    simp only [Pattern.matchAllSome, List.map_cons, Test.all, ← hfst, ← hsnd]
    cases hm : (Pattern.matchSome ev q vs s).1 with
    | true =>
      obtain ⟨ha, hb, hp⟩ := ih (Pattern.matchSome ev q vs s).2.2
      simp only [↓reduceIte]
      exact ⟨ha, hb, .cons hkeeps hp⟩
    | false =>
      simp only [Bool.false_eq_true, ↓reduceIte]
      exact ⟨rfl, rfl, .cons hkeeps hqs⟩

/-- The answer of an evaluator about a list of patterns and a list of values, in either mode. -/
theorem asksList (h : Mirrors ev j R) {qs qs₀ : List Pattern} (hqs : List.Forall₂ R qs qs₀)
    (vs : List Value) (s : State) (mode : Mode) :
    Answers R
      (match mode with
        | .exact => if vs.length = qs.length then Pattern.matchEach ev qs vs s else (false, qs, s)
        | .inclusive => Pattern.matchAllSome ev vs qs s)
      (asksList j qs₀ vs mode s.bindings) qs₀ := by
  cases mode with
  | inclusive => exact h.matchAllSome hqs vs s
  | exact =>
    simp only [Pattern.asksList, hqs.length_eq]
    split_ifs
    · exact h.matchEach hqs vs s
    · exact ⟨rfl, rfl, hqs⟩

/-- Judging by what is kept mirrors judging by what is read, if the two agree. -/
theorem judge (h : Mirrors ev j R) (p : Pattern) {r r₀ : Option (Reading Pattern)}
    (hr : Reading.Kept R r r₀) (v : Value) (s : State) (m : Matcher) :
    (judge ev p r v s m).1 = (verdictFrom j p r₀ v s.bindings m).1 ∧
      (judge ev p r v s m).2.2.bindings = (verdictFrom j p r₀ v s.bindings m).2 ∧
      Reading.Kept R (judge ev p r v s m).2.1 r₀ := by
  cases m with
  | added a =>
    have hdata : r.bind Matcher.dataOf = r₀.bind Matcher.dataOf := by
      cases hr with
      | none => rfl
      | some hl => cases hl <;> rfl
    exact ⟨by simp only [Pattern.judge, verdictFrom, hdata], rfl, hr⟩
  | builtIn d =>
    cases d with
    | anything | nullOrEmpty => exact ⟨rfl, rfl, hr⟩
    | capture | glob | comparison | range | regex =>
      cases hr with
      | none => exact ⟨rfl, rfl, .none⟩
      | some hl =>
        have hr := Option.Rel.some hl
        cases hl <;> exact ⟨rfl, rfl, hr⟩
    | negation =>
      cases hr with
      | none => exact ⟨rfl, rfl, .none⟩
      | some hl =>
        have hr := Option.Rel.some hl
        cases hl with
        | negation hq =>
          exact ⟨congrArg Verdict.negate (h.verdict hq v s), h.bindings hq v s,
            .some (.negation (h.keeps hq v s))⟩
        | _ => exact ⟨rfl, rfl, hr⟩
    | list =>
      cases hr with
      | none => exact ⟨rfl, rfl, .none⟩
      | some hl =>
        have hr := Option.Rel.some hl
        cases hl with
        | list hqs =>
          cases v with
          | list vs =>
            obtain ⟨ha, hb, hp⟩ := h.asksList hqs vs s p.settings.mode
            exact ⟨congrArg Verdict.matchOrDefer ha, hb, .some (.list hp)⟩
          | _ => exact ⟨rfl, rfl, hr⟩
        | _ => exact ⟨rfl, rfl, hr⟩
    | multiField =>
      cases hr with
      | none => exact ⟨rfl, rfl, .none⟩
      | some hl =>
        have hr := Option.Rel.some hl
        cases hl with
        | fields hqs =>
          obtain ⟨ha, hb, hp⟩ := h.matchAll hqs v s
          exact ⟨congrArg Verdict.matchOrDefer ha, hb, .some (.fields hp)⟩
        | _ => exact ⟨rfl, rfl, hr⟩
    | property =>
      cases hr with
      | none => exact ⟨rfl, rfl, .none⟩
      | some hl =>
        have hr := Option.Rel.some hl
        cases hl with
        | @property names q q₀ hq =>
          by_cases hv : v.isNull = true
          · simp only [Pattern.judge, judgeDialect, judgeProperty, verdictFrom, verdictOf, hv,
              ↓reduceIte]
            exact ⟨trivial, trivial, hr⟩
          · simp only [Pattern.judge, judgeDialect, judgeProperty, verdictFrom, verdictOf, hv,
              deferring, h.asks_eq hq, Bool.false_eq_true, ↓reduceIte]
            exact ⟨trivial, trivial, .some (.property names (h.keeps hq _ s))⟩
        | _ => exact ⟨rfl, rfl, hr⟩

end Mirrors

/-! ## Reading -/

variable {p : Pattern} {n : Nat}

theorem settings_eq_of_forget_eq {q : Pattern} (h : p.forget = q.forget) :
    p.settings = q.settings :=
  congrArg (fun r => r.settings) h

theorem cached?_store (p : Pattern) (k k' : Kind) (r : Option (Reading Pattern)) :
    (p.store k r).cached? k' = if k' = k then some r else p.cached? k' :=
  lookup_cons_filter_ne k k' r p.cache

theorem Coherent.store (hp : Coherent (n + 1) p) {m : Matcher}
    (hm : m ∈ p.settings.chain.matchers) {r : Option (Reading Pattern)}
    (hr : Reading.Kept (Agrees n) r (m.read p)) : Coherent (n + 1) (p.store m.kind r) := by
  refine ⟨hp.1, fun k r' hr' => ?_⟩
  rw [cached?_store] at hr'
  split_ifs at hr' with hk
  · obtain rfl := Option.some.inj hr'
    exact ⟨m, hm, hk.symm, hr⟩
  · exact hp.2 k r' hr'

/-- What a regular matcher keeps without reading is what it would read. -/
theorem Coherent.kept_of_not_shouldRead (hp : Coherent (n + 1) p) {m : Matcher}
    (hm : m ∈ p.settings.chain.matchers)
    (h : m.shouldRead (p.cached? m.kind).isNone ((p.cached? m.kind).bind id) p = false) :
    Reading.Kept (Agrees n) ((p.cached? m.kind).bind id) (m.read p) := by
  cases hc : p.cached? m.kind with
  | some r =>
    obtain ⟨m', hm', hk, hr⟩ := hp.2 m.kind r hc
    rw [Chain.eq_of_kind_eq hm' hm hk] at hr
    exact hr
  | none =>
    rw [hc] at h
    cases m with
    | builtIn d =>
      cases d with
      | anything | nullOrEmpty => exact .none
      | _ => simp [Matcher.shouldRead, Dialect.shouldRead] at h
    | added a =>
      rcases (hp.1 _ hm : a.IsRegular) p.view with hreads | hnothing
      · simp [Matcher.shouldRead, hreads] at h
      · have hread : Matcher.read p (.added a) = none := by
          rw [Matcher.read, hnothing, Option.map_none]
        rw [hread]
        exact .none

/-- Reading gives what the matcher reads from the text, and keeps the cache coherent. -/
theorem Coherent.ensureRead (hp : Coherent (n + 1) p) {m : Matcher}
    (hm : m ∈ p.settings.chain.matchers) (force : Bool) (s : State) :
    Reading.Kept (Agrees n) (p.ensureRead m force s).1 (m.read p) ∧
      Agrees (n + 1) (p.ensureRead m force s).2.1 p.forget ∧
      (p.ensureRead m force s).2.2.bindings = s.bindings := by
  simp only [Pattern.ensureRead]
  split_ifs with h
  · exact ⟨kept_read hp.1 n m, ⟨rfl, hp.store hm (kept_read hp.1 n m)⟩, rfl⟩
  · rw [Bool.or_eq_true, not_or, Bool.not_eq_true, Bool.not_eq_true] at h
    exact ⟨hp.kept_of_not_shouldRead hm h.2, ⟨rfl, hp⟩, rfl⟩

theorem Coherent.putBack (hp : Coherent (n + 1) p) {m : Matcher}
    (hm : m ∈ p.settings.chain.matchers) {r : Option (Reading Pattern)}
    (hr : Reading.Kept (Agrees n) r (m.read p)) :
    Agrees (n + 1) (p.putBack m.kind r) p.forget := by
  cases r with
  | none => exact ⟨rfl, hp⟩
  | some r => exact ⟨rfl, hp.store hm hr⟩

/-! ## The chain -/

/-- Nothing that is kept enters into a verdict but by what was read. -/
theorem verdictFrom_forget (j : Judge) (p : Pattern) (r : Option (Reading Pattern)) (v : Value)
    (b : Bindings) (m : Matcher) : verdictFrom j p.forget r v b m = verdictFrom j p r v b m := by
  cases m with
  | added a => rfl
  | builtIn d => cases d <;> rfl

theorem Mirrors.dispatch (h : Mirrors ev j (Agrees n)) {ms : List Matcher}
    (hms : ∀ m ∈ ms, m ∈ p.settings.chain.matchers) (hp : Coherent (n + 1) p) (v : Value)
    (s : State) :
    (dispatch ev ms p v s).1 = (firstVerdict j ms p.forget v s.bindings).1 ∧
      (dispatch ev ms p v s).2.2.bindings = (firstVerdict j ms p.forget v s.bindings).2 ∧
      Agrees (n + 1) (dispatch ev ms p v s).2.1 p.forget := by
  induction ms generalizing p s with
  | nil => exact ⟨rfl, rfl, rfl, hp⟩
  | cons m ms ih =>
    have hm := hms m List.mem_cons_self
    obtain ⟨hr, ⟨hf, hp₁⟩, hb⟩ := hp.ensureRead hm false s
    simp only [Pattern.dispatch, firstVerdict]
    generalize p.ensureRead m false s = x at hr hf hp₁ hb ⊢
    obtain ⟨r, p₁, s₁⟩ := x
    dsimp only at hr hf hp₁ hb ⊢
    have hread : m.read p₁ = m.read p := by rw [← read_forget, hf, read_forget]
    have ht : verdictFrom j p₁ (m.read p) v s₁.bindings m =
        verdictFrom j p.forget (m.read p.forget) v s.bindings m := by
      rw [← verdictFrom_forget, hf, hb, read_forget]
    obtain ⟨hv, hb₂, hr₂⟩ := h.judge p₁ hr v s₁ m
    rw [ht] at hv hb₂
    generalize Pattern.judge ev p₁ r v s₁ m = y at hv hb₂ hr₂ ⊢
    obtain ⟨verdict, r₂, s₂⟩ := y
    dsimp only at hv hb₂ hr₂ ⊢
    have hm₁ : m ∈ p₁.settings.chain.matchers := by rwa [settings_eq_of_forget_eq hf]
    obtain ⟨hf₂, hp₂⟩ := hp₁.putBack hm₁ (by rwa [hread])
    rw [hf] at hf₂
    rw [← hv]
    split_ifs
    · exact ⟨hv, hb₂, hf₂, hp₂⟩
    · have hrest : ∀ m' ∈ ms, m' ∈ (p₁.putBack m.kind r₂).settings.chain.matchers := by
        rw [settings_eq_of_forget_eq hf₂]
        exact fun m' hm' => hms m' (List.mem_cons_of_mem m hm')
      have hgo := ih hrest hp₂ s₂
      rwa [hf₂, hb₂] at hgo

/-- One level of evaluation, `ev` being asked about the sub-patterns. -/
def evaluateLevel (ev : Evaluator) : Evaluator := fun p v s =>
  if p.isRoot then
    let (verdict, p, s) := Pattern.dispatch ev p.settings.chain.matchers p v s.clear
    (verdict, p, if verdict = .isMatch then s else s.clear)
  else Pattern.dispatch ev p.settings.chain.matchers p v s

/-- **One level of evaluation mirrors one level of fresh judgement.** -/
theorem Mirrors.level (h : Mirrors ev j (Agrees n)) :
    Mirrors (evaluateLevel ev) (judgeLevel j) (Agrees (n + 1)) := by
  have hstep : ∀ {q q₀ : Pattern}, Agrees (n + 1) q q₀ → ∀ v s,
      (evaluateLevel ev q v s).1 = (judgeLevel j q₀ v s.bindings).1 ∧
        (evaluateLevel ev q v s).2.2.bindings = (judgeLevel j q₀ v s.bindings).2 ∧
        Agrees (n + 1) (evaluateLevel ev q v s).2.1 q₀ := by
    rintro q q₀ ⟨rfl, hq⟩ v s
    have hroot : q.forget.isRoot = q.isRoot := rfl
    simp only [evaluateLevel, judgeLevel, hroot]
    cases q.isRoot with
    | false => exact h.dispatch (fun _ hm => hm) hq v s
    | true =>
      obtain ⟨hv, hb, hk⟩ := h.dispatch (fun _ hm => hm) hq v s.clear
      change _ = (chainVerdict j q.forget v []).1 at hv
      change _ = (chainVerdict j q.forget v []).2 at hb
      refine ⟨hv, ?_, hk⟩
      simp only [↓reduceIte, ← hv]
      split_ifs
      · exact hb
      · rfl
  exact ⟨fun hq v s => (hstep hq v s).1, fun hq v s => (hstep hq v s).2.1,
    fun hq v s => (hstep hq v s).2.2⟩

/-- **Evaluation mirrors fresh judgement** at every level. -/
theorem mirrors_evaluateWithin (n : Nat) :
    Mirrors (evaluateWithin n) (freshWithin n) (Agrees n) := by
  induction n with
  | zero => exact ⟨fun _ _ _ => rfl, fun _ _ _ => rfl, fun hq _ _ => hq⟩
  | succ n ih => exact ih.level

/-- **A coherent cache is invisible**: evaluating gives the verdict and the variables of fresh
judgement, and leaves the same pattern with a coherent cache. -/
theorem evaluate_of_coherent (hp : Coherent p.levels p) (v : Value) (s : State) :
    (p.evaluate v s).1 = (p.forget.fresh v s.bindings).1 ∧
      (p.evaluate v s).2.2.bindings = (p.forget.fresh v s.bindings).2 ∧
      Agrees p.levels (p.evaluate v s).2.1 p.forget :=
  have h := mirrors_evaluateWithin p.levels
  ⟨h.verdict ⟨rfl, hp⟩ v s, h.bindings ⟨rfl, hp⟩ v s, h.keeps ⟨rfl, hp⟩ v s⟩

theorem Agrees.levels_eq {n : Nat} {q q₀ : Pattern} (h : Agrees n q q₀) :
    q.levels = q₀.levels := by
  rw [← levels_forget, h.1]

/-- Evaluation mirrors fresh judgement for patterns that agree as deep as they can be derived. -/
theorem mirrors_evaluate : Mirrors evaluate fresh fun q q₀ => Agrees q₀.levels q q₀ where
  verdict hq v s := by
    rw [evaluate, hq.levels_eq]
    exact (mirrors_evaluateWithin _).verdict hq v s
  bindings hq v s := by
    rw [evaluate, hq.levels_eq]
    exact (mirrors_evaluateWithin _).bindings hq v s
  keeps hq v s := by
    rw [evaluate, hq.levels_eq]
    exact (mirrors_evaluateWithin _).keeps hq v s

end Pattern

end Sift
