import Sift.Proofs.History
import Sift.Proofs.Modes

/-!
# One more matcher

A host may add a matcher of its own to the standard chain. It comes last, so it is asked only about
what the dialects leave open. But the parts of a text are patterns with the same chain. There, too,
it settles what the dialects leave open, and then a dialect that asks the parts may find a match
where it found none.

**Failures that are left to others.** As long as nothing is negated, a dialect that asks parts
leaves its failures to later dialects, and none of these can refute the value
(`Dialect.pairwise_all`). So a match that is found on the way is a match that is found anyway,
unless the question is left open in the end.

**Two runs.** The added matcher reads when it likes, so nothing is known of what is kept for it. So
the pattern with the matcher is evaluated, and compared with fresh judgement by the pattern without
it, level by level: what the judge settles, the evaluator settles alike (`Pattern.Settles`).

**Main result.** A verdict of the standard chain stays the same when a matcher is added
(`verdict_insert`).
-/

namespace Sift

/-! ## Failures that are left to others -/

/-- Whether a dialect leaves its failures on a value to later dialects. -/
def Dialect.defers : Dialect → Value → Bool
  | .list, .list _ | .multiField, _ | .property, _ => true
  | _, _ => false

/-- Whether a dialect may find that a value does not match. -/
def Dialect.refutes : Dialect → Value → Bool
  | .nullOrEmpty, _ | .capture, _ | .negation, _ => true
  | .glob, .string _ | .regex, .string _ => true
  | .comparison, .number _ | .range, .number _ => true
  | _, _ => false

/-- **No dialect refutes a value** behind one that leaves its failures to others. -/
theorem Dialect.pairwise_all (v : Value) :
    Dialect.all.Pairwise fun d d' => d.defers v = true → d'.refutes v = false := by
  cases v <;> simp [Dialect.all, defers, refutes]

theorem Verdict.matchOrDefer_ne_mismatch (matched : Bool) :
    matchOrDefer matched ≠ mismatch := by
  cases matched <;> decide

namespace Pattern

variable {p q q₀ : Pattern} {v : Value} {ev : Evaluator} {j : Judge} {d : Dialect}

theorem verdictOf_ne_mismatch (hd : d.refutes v = false) (r : Option (Reading Pattern))
    (b : Bindings) : (verdictOf j p r v b d).1 ≠ .mismatch := by
  cases d with
  | anything =>
    simp only [verdictOf, judgeAnything]
    split_ifs <;> simp
  | nullOrEmpty | capture | negation => cases hd
  | glob | regex =>
    cases v with
    | string t => cases hd
    | _ => simp [verdictOf, judgeGlob, judgeRegex]
  | comparison | range =>
    cases v with
    | number x => cases hd
    | _ => simp [verdictOf, judgeComparison, judgeRange]
  | list =>
    simp only [verdictOf]
    split
    · exact Verdict.matchOrDefer_ne_mismatch _
    · simp
  | multiField =>
    simp only [verdictOf]
    split
    · exact Verdict.matchOrDefer_ne_mismatch _
    · simp
  | property =>
    simp only [verdictOf]
    split
    · split_ifs
      · simp
      · exact Verdict.matchOrDefer_ne_mismatch _
    · simp

theorem firstVerdict_ne_mismatch {ms : List Matcher}
    (h : ∀ m ∈ ms, ∀ b, (verdictFrom j p (m.read p) v b m).1 ≠ .mismatch) (b : Bindings) :
    (firstVerdict j ms p v b).1 ≠ .mismatch := by
  induction ms generalizing b with
  | nil => simp [firstVerdict]
  | cons m ms ih =>
    simp only [firstVerdict]
    split_ifs
    · exact h m List.mem_cons_self b
    · exact ih (fun m' hm' => h m' (List.mem_cons_of_mem m hm')) _

/-- Dialects that refute nothing settle a question with a match, or not at all. -/
theorem firstVerdict_eq_isMatch {ds : List Dialect} (h : ∀ d ∈ ds, d.refutes v = false)
    {b : Bindings} (hv : (firstVerdict j (ds.map .builtIn) p v b).1 ≠ .indeterminate) :
    (firstVerdict j (ds.map .builtIn) p v b).1 = .isMatch := by
  have hne : (firstVerdict j (ds.map .builtIn) p v b).1 ≠ .mismatch := by
    apply firstVerdict_ne_mismatch
    intro m hm b
    obtain ⟨d, hd, rfl⟩ := List.mem_map.1 hm
    exact verdictOf_ne_mismatch (h d hd) _ b
  cases hw : (firstVerdict j (ds.map .builtIn) p v b).1 with
  | isMatch => rfl
  | mismatch => exact absurd hw hne
  | indeterminate => exact absurd hw hv

/-! ## Settling what a judge settles -/

/-- An evaluator settles alike whatever a judge settles, the variables being of no concern, and what
it makes of a pattern stays related to the pattern that was judged. -/
structure Settles (ev : Evaluator) (j : Judge) (R : Pattern → Pattern → Prop) : Prop where
  steady : ∀ {q q₀ : Pattern}, R q q₀ → ∀ v, Steady (j q₀ v)
  verdict : ∀ {q q₀ : Pattern}, R q q₀ → ∀ v s, (j q₀ v []).1 ≠ .indeterminate →
    (ev q v s).1 = (j q₀ v []).1
  keeps : ∀ {q q₀ : Pattern}, R q q₀ → ∀ v s, R (ev q v s).2.1 q₀

/-- The answer of an evaluator about some patterns is yes if the one of a test is, and leaves the
patterns related to the ones that were asked. -/
structure Grants (R : Pattern → Pattern → Prop) (r : Bool × List Pattern × State) (t : Test)
    (qs₀ : List Pattern) : Prop where
  answer : (t []).1 = true → r.1 = true
  patterns : List.Forall₂ R r.2.1 qs₀

variable {R : Pattern → Pattern → Prop}

namespace Settles

theorem isMatch (h : Settles ev j R) (hq : R q q₀) (s : State)
    (hask : (asks j q₀ v []).1 = true) : (ev q v s).1 = .isMatch := by
  have hmatch : (j q₀ v []).1 = .isMatch := by simpa [asks] using hask
  rw [h.verdict hq v s (by simp [hmatch]), hmatch]

theorem steady_asks (h : Settles ev j R) (hq : R q q₀) (v : Value) : Steady (asks j q₀ v) :=
  Pattern.steady_asks (h.steady hq v)

theorem matchEach (h : Settles ev j R) {qs qs₀ : List Pattern} (hqs : List.Forall₂ R qs qs₀)
    (vs : List Value) (s : State) :
    Grants R (Pattern.matchEach ev qs vs s) (Test.all (List.zipWith (asks j) qs₀ vs)) qs₀ := by
  induction hqs generalizing vs s with
  | nil => exact ⟨fun _ => rfl, .nil⟩
  | @cons q q₀ qs qs₀ hq hqs ih =>
    cases vs with
    | nil => exact ⟨fun _ => rfl, .cons hq hqs⟩
    | cons v vs =>
      have hkeeps := h.keeps hq v s
      have hsplit := Test.all_cons_of_steady (h.steady_asks hq v) (List.zipWith (asks j) qs₀ vs)
      simp only [Pattern.matchEach, List.zipWith_cons_cons]
      by_cases hm : (ev q v s).1 = .isMatch
      · obtain ⟨ha, hp⟩ := ih vs (ev q v s).2.2
        simp only [hm, ↓reduceIte]
        exact ⟨fun hall => ha (hsplit.1 hall).2, .cons hkeeps hp⟩
      · simp only [hm, ↓reduceIte]
        exact ⟨fun hall => absurd (h.isMatch hq s (hsplit.1 hall).1) hm, .cons hkeeps hqs⟩

theorem matchAll (h : Settles ev j R) {qs qs₀ : List Pattern} (hqs : List.Forall₂ R qs qs₀)
    (v : Value) (s : State) :
    Grants R (Pattern.matchAll ev v qs s) (Test.all (qs₀.map fun q => asks j q v)) qs₀ := by
  induction hqs generalizing s with
  | nil => exact ⟨fun _ => rfl, .nil⟩
  | @cons q q₀ qs qs₀ hq hqs ih =>
    have hkeeps := h.keeps hq v s
    have hsplit :=
      Test.all_cons_of_steady (h.steady_asks hq v) (qs₀.map fun q => asks j q v)
    simp only [Pattern.matchAll, List.map_cons]
    by_cases hm : (ev q v s).1 = .isMatch
    · obtain ⟨ha, hp⟩ := ih (ev q v s).2.2
      simp only [hm, ↓reduceIte]
      exact ⟨fun hall => ha (hsplit.1 hall).2, .cons hkeeps hp⟩
    · simp only [hm, ↓reduceIte]
      exact ⟨fun hall => absurd (h.isMatch hq s (hsplit.1 hall).1) hm, .cons hkeeps hqs⟩

theorem matchSome (h : Settles ev j R) (hq : R q q₀) (vs : List Value) (s : State) :
    ((Test.any (vs.map (asks j q₀)) []).1 = true → (Pattern.matchSome ev q vs s).1 = true) ∧
      R (Pattern.matchSome ev q vs s).2.1 q₀ := by
  induction vs generalizing q s with
  | nil => exact ⟨fun hany => hany, hq⟩
  | cons v vs ih =>
    have hkeeps := h.keeps hq v s
    have hsplit := Test.any_cons_of_steady (h.steady_asks hq v) (vs.map (asks j q₀))
    simp only [Pattern.matchSome, List.map_cons]
    by_cases hm : (ev q v s).1 = .isMatch
    · simp only [hm, ↓reduceIte]
      exact ⟨fun _ => trivial, hkeeps⟩
    · obtain ⟨ha, hp⟩ := ih hkeeps (ev q v s).2.2
      simp only [hm, ↓reduceIte]
      refine ⟨fun hany => ?_, hp⟩
      rcases hsplit.1 hany with hask | hany
      · exact absurd (h.isMatch hq s hask) hm
      · exact ha hany

theorem matchAllSome (h : Settles ev j R) {qs qs₀ : List Pattern} (hqs : List.Forall₂ R qs qs₀)
    (vs : List Value) (s : State) :
    Grants R (Pattern.matchAllSome ev vs qs s)
      (Test.all (qs₀.map fun q => Test.any (vs.map (asks j q)))) qs₀ := by
  induction hqs generalizing s with
  | nil => exact ⟨fun _ => rfl, .nil⟩
  | @cons q q₀ qs qs₀ hq hqs ih =>
    obtain ⟨hsome, hkeeps⟩ := h.matchSome hq vs s
    have hany : Steady (Test.any (vs.map (asks j q₀))) :=
      Test.steady_any (List.forall_mem_map.2 fun v _ => h.steady_asks hq v)
    have hsplit :=
      Test.all_cons_of_steady hany (qs₀.map fun q => Test.any (vs.map (asks j q)))
    simp only [Pattern.matchAllSome, List.map_cons]
    cases hm : (Pattern.matchSome ev q vs s).1 with
    | true =>
      obtain ⟨ha, hp⟩ := ih (Pattern.matchSome ev q vs s).2.2
      simp only [↓reduceIte]
      exact ⟨fun hall => ha (hsplit.1 hall).2, .cons hkeeps hp⟩
    | false =>
      simp only [Bool.false_eq_true, ↓reduceIte]
      refine ⟨fun hall => ?_, .cons hkeeps hqs⟩
      rw [hsome (hsplit.1 hall).1] at hm
      cases hm

theorem asksList (h : Settles ev j R) {qs qs₀ : List Pattern} (hqs : List.Forall₂ R qs qs₀)
    (vs : List Value) (s : State) (mode : Mode) :
    Grants R
      (match mode with
        | .exact => if vs.length = qs.length then Pattern.matchEach ev qs vs s else (false, qs, s)
        | .inclusive => Pattern.matchAllSome ev vs qs s)
      (Pattern.asksList j qs₀ vs mode) qs₀ := by
  cases mode with
  | inclusive => exact h.matchAllSome hqs vs s
  | exact =>
    simp only [Pattern.asksList, hqs.length_eq]
    split_ifs
    · exact h.matchEach hqs vs s
    · exact ⟨fun hask => hask, hqs⟩

/-- **A dialect that leaves its failures to others** finds at least the matches that it finds in
the judgement, if the evaluator settles what the judge settles about the parts. -/
theorem judge_of_defers (h : Settles ev j R) (hmode : q.settings.mode = q₀.settings.mode)
    {r r₀ : Option (Reading Pattern)} (hr : Reading.Kept R r r₀) (hd : d.defers v = true)
    (s : State) :
    (verdictOf j q₀ r₀ v [] d).1.Widens (judgeDialect ev q r v s d).1 ∧
      Reading.Kept R (judgeDialect ev q r v s d).2.1 r₀ := by
  cases d with
  | list =>
    cases v with
    | list vs =>
      cases hr with
      | none => exact ⟨.same _, .none⟩
      | some hl =>
        have hr := Option.Rel.some hl
        cases hl with
        | list hqs =>
          obtain ⟨ha, hp⟩ := h.asksList hqs vs s q.settings.mode
          simp only [judgeDialect, judgeList, verdictOf, deferring, ← hmode]
          exact ⟨Verdict.widens_matchOrDefer ha, .some (.list hp)⟩
        | _ => exact ⟨.same _, hr⟩
    | _ => cases hd
  | multiField =>
    cases hr with
    | none => exact ⟨.same _, .none⟩
    | some hl =>
      have hr := Option.Rel.some hl
      cases hl with
      | fields hqs =>
        obtain ⟨ha, hp⟩ := h.matchAll hqs v s
        simp only [judgeDialect, judgeFields, verdictOf, deferring]
        exact ⟨Verdict.widens_matchOrDefer ha, .some (.fields hp)⟩
      | _ => exact ⟨.same _, hr⟩
  | property =>
    cases hr with
    | none => exact ⟨.same _, .none⟩
    | some hl =>
      have hr := Option.Rel.some hl
      cases hl with
      | property names hq =>
        simp only [judgeDialect, judgeProperty, verdictOf, deferring]
        by_cases hv : v.isNull = true
        · simp only [hv, ↓reduceIte]
          exact ⟨.same _, hr⟩
        · simp only [hv, Bool.false_eq_true, ↓reduceIte]
          refine ⟨Verdict.widens_matchOrDefer fun hask => ?_, .some (.property names ?_)⟩
          · exact decide_eq_true (h.isMatch hq s hask)
          · exact h.keeps hq (v.path names) s
      | _ => exact ⟨.same _, hr⟩
  | _ => cases hd

end Settles

/-! ## Patterns with one more matcher -/

/-- A pattern with the standard chain in which nothing is negated and no variable stands. -/
structure IsPlain (p : Pattern) : Prop where
  chain : p.settings.chain = .standard
  no_mark : '!' ∉ p.text
  no_dollar : '$' ∉ p.text

theorem IsPlain.derive (h : IsPlain p) {t : List Char} (ht : t <:+: p.text) :
    IsPlain (p.derive t) where
  chain := h.chain
  no_mark hmem := h.no_mark (ht.subset hmem)
  no_dollar hmem := h.no_dollar (ht.subset hmem)

theorem IsPlain.readNegation_eq (h : IsPlain p) : p.readNegation = none := by
  rw [readNegation, operandOfNegation?_of_not_mem h.no_mark, Option.map_none, ite_self]

theorem IsPlain.not_hasVariable (h : IsPlain p) : ¬ HasVariable p.text :=
  not_hasVariable_of_not_mem h.no_dollar

theorem IsPlain.matchers_eq (h : IsPlain p) :
    p.settings.chain.matchers = Dialect.all.map .builtIn := by
  rw [h.chain]
  rfl

/-- A pattern is another one with a matcher added, and keeps for the dialects what they read from
the other one, the sub-patterns being related. -/
structure Extends (a : Added) (R : Pattern → Pattern → Prop) (q q₀ : Pattern) : Prop where
  forget : q.forget = q₀.insert (.added a)
  kept : ∀ d r, q.cached? (.builtIn d) = some r → Reading.Kept R r (d.read q₀)

/-- A part of a plain pattern with a matcher added, as far down as the given number of levels. -/
def Extended (a : Added) : (levels : Nat) → Pattern → Pattern → Prop
  | 0, _, _ => True
  | levels + 1, q, q₀ => IsPlain q₀ ∧ q₀.isRoot = false ∧ Extends a (Extended a levels) q q₀

variable {a : Added}

/-- The parts of a pattern are related to the ones with the matcher added. -/
def RelatesParts (a : Added) (R : Pattern → Pattern → Prop) (q₀ : Pattern) : Prop :=
  ∀ t, t <:+: q₀.text → R ((q₀.insert (.added a)).derive t) (q₀.derive t)

theorem extends_insert (q₀ : Pattern) : Extends a R (q₀.insert (.added a)) q₀ where
  forget := rfl
  kept := by
    intro d r hr
    cases hr

theorem IsPlain.relatesParts (h : IsPlain q₀) : ∀ n, RelatesParts a (Extended a n) q₀
  | 0 => fun _ _ => trivial
  | _ + 1 => fun t ht => ⟨h.derive ht, rfl, extends_insert (q₀.derive t)⟩

/-- All that is handed on to the parts is judged steadily. -/
theorem Settles.steadyOnParts (h : Settles ev j R) (hparts : RelatesParts a R q₀) (v : Value) :
    SteadyOnParts j q₀ v :=
  fun t w hd => h.steady (hparts t hd.isInfix) w

namespace Extends

theorem text_eq (h : Extends a R q q₀) : q.text = q₀.text := congrArg (·.text) h.forget

theorem mode_eq (h : Extends a R q q₀) : q.settings.mode = q₀.settings.mode :=
  congrArg (·.settings.mode) h.forget

theorem matchers_eq (h : Extends a R q q₀) (hplain : IsPlain q₀) :
    q.settings.chain.matchers = Dialect.all.map .builtIn ++ [.added a] := by
  have hchain : q.settings.chain = q₀.settings.chain.insert (.added a) :=
    congrArg (·.settings.chain) h.forget
  rw [hchain, hplain.chain]
  rfl

/-- What the dialects read now agrees with what they read from the pattern without the matcher. -/
theorem kept_read (h : Extends a R q q₀) (hparts : RelatesParts a R q₀) (d : Dialect) :
    Reading.Kept R (d.read q) (d.read q₀) := by
  have hcan : q.forget.canDerive = q₀.canDerive := by rw [h.forget]; rfl
  have hglob : q.forget.readGlob = q₀.readGlob := by rw [h.forget]; rfl
  refine kept_read_of_text_eq h.text_eq hcan hglob (fun _ t ht => ?_) d
  rw [← derive_forget, h.forget]
  exact hparts t ht

theorem store (h : Extends a R q q₀) {m : Matcher} {r : Option (Reading Pattern)}
    (hr : ∀ d, m = .builtIn d → Reading.Kept R r (d.read q₀)) :
    Extends a R (q.store m.kind r) q₀ := by
  refine ⟨h.forget, fun d r' hr' => ?_⟩
  rw [cached?_store] at hr'
  split_ifs at hr' with hk
  · obtain rfl := Option.some.inj hr'
    apply hr d
    cases m with
    | builtIn d' => rw [Kind.builtIn.inj hk]
    | added a' => cases hk
  · exact h.kept d r' hr'

theorem putBack (h : Extends a R q q₀) {m : Matcher} {r : Option (Reading Pattern)}
    (hr : ∀ d, m = .builtIn d → Reading.Kept R r (d.read q₀)) :
    Extends a R (q.putBack m.kind r) q₀ := by
  cases r with
  | none => exact h
  | some r => exact h.store hr

/-- What a dialect keeps without reading is what it would read. -/
theorem kept_of_not_shouldRead (h : Extends a R q q₀)
    (hs : d.shouldRead (q.cached? (.builtIn d)).isNone ((q.cached? (.builtIn d)).bind id) =
      false) : Reading.Kept R ((q.cached? (.builtIn d)).bind id) (d.read q₀) := by
  cases hc : q.cached? (.builtIn d) with
  | some r => exact h.kept d r hc
  | none =>
    rw [hc] at hs
    cases d with
    | anything | nullOrEmpty => exact .none
    | _ => simp [Dialect.shouldRead] at hs

/-- Reading gives what a dialect reads from the pattern without the matcher. -/
theorem ensureRead (h : Extends a R q q₀) (hparts : RelatesParts a R q₀) (m : Matcher)
    (s : State) :
    Extends a R (q.ensureRead m false s).2.1 q₀ ∧
      ∀ d, m = .builtIn d → Reading.Kept R (q.ensureRead m false s).1 (d.read q₀) := by
  have hread : ∀ d, m = .builtIn d → Reading.Kept R (m.read q) (d.read q₀) := by
    rintro d rfl
    exact h.kept_read hparts d
  simp only [Pattern.ensureRead, Bool.false_or]
  split_ifs with hs
  · exact ⟨h.store hread, hread⟩
  · refine ⟨h, ?_⟩
    rintro d rfl
    exact h.kept_of_not_shouldRead (Bool.eq_false_iff.2 hs)

/-- **A dialect that asks no parts** gives the same verdict, and leaves what is kept. -/
theorem judge_of_not_defers (h : Extends a R q q₀) (hplain : IsPlain q₀)
    {r : Option (Reading Pattern)} (hr : Reading.Kept R r (d.read q₀)) (hd : d.defers v = false)
    (s : State) :
    (judgeDialect ev q r v s d).1 = (verdictOf j q₀ (d.read q₀) v [] d).1 ∧
      (judgeDialect ev q r v s d).2.1 = r := by
  cases d with
  | anything =>
    simp only [judgeDialect, verdictOf, judgeAnything, h.text_eq]
    trivial
  | nullOrEmpty =>
    have hcase : q.settings.ignoreCase = q₀.settings.ignoreCase :=
      congrArg (·.settings.ignoreCase) h.forget
    simp only [judgeDialect, verdictOf, judgeNullOrEmpty, textEquals, h.text_eq, hcase]
    trivial
  | capture =>
    simp only [Dialect.read, readCapture_eq_none hplain.not_hasVariable] at hr ⊢
    cases hr
    exact ⟨rfl, rfl⟩
  | negation =>
    simp only [Dialect.read, hplain.readNegation_eq] at hr ⊢
    cases hr
    exact ⟨rfl, rfl⟩
  | glob | comparison | range | regex =>
    refine ⟨?_, rfl⟩
    simp only [judgeDialect, verdictOf]
    generalize Dialect.read q₀ _ = r₀ at hr ⊢
    cases hr with
    | none => rfl
    | some hl => cases hl <;> rfl
  | list =>
    cases v with
    | list vs => cases hd
    | _ => simp [judgeDialect, judgeList, verdictOf]
  | multiField | property => cases hd

/-! ## The chain -/

/-- The added matcher, which comes last, touches nothing that is kept for the dialects. -/
theorem dispatch_added (h : Extends a R q q₀) (hparts : RelatesParts a R q₀) (v : Value)
    (s : State) : Extends a R (dispatch ev [.added a] q v s).2.1 q₀ := by
  obtain ⟨hq, -⟩ := h.ensureRead hparts (.added a) s
  simp only [dispatch]
  generalize q.ensureRead (.added a) false s = x at hq ⊢
  obtain ⟨r, q₁, s₁⟩ := x
  dsimp only at hq ⊢
  generalize judge ev q₁ r v s₁ (.added a) = y
  obtain ⟨w, r₂, s₂⟩ := y
  have hback : Extends a R (q₁.putBack (Matcher.added a).kind r₂) q₀ :=
    hq.putBack fun d hd => by cases hd
  dsimp only
  split_ifs
  · exact hback
  · exact hback

end Extends

/-- One dialect gives the same verdict, or it has left its failure to others and finds a match. -/
theorem Settles.judge (h : Settles ev j R) (hplain : IsPlain q₀) (hq : Extends a R q q₀)
    {r : Option (Reading Pattern)} (hr : Reading.Kept R r (d.read q₀)) (v : Value) (s : State) :
    ((judge ev q r v s (.builtIn d)).1 = (verdictOf j q₀ (d.read q₀) v [] d).1 ∨
      (verdictOf j q₀ (d.read q₀) v [] d).1 = .indeterminate ∧
        (judge ev q r v s (.builtIn d)).1 = .isMatch ∧ d.defers v = true) ∧
    Reading.Kept R (judge ev q r v s (.builtIn d)).2.1 (d.read q₀) := by
  simp only [Pattern.judge]
  cases hd : d.defers v with
  | false =>
    obtain ⟨hsame, hkeeps⟩ := hq.judge_of_not_defers hplain hr hd s
    rw [hkeeps]
    exact ⟨.inl hsame, hr⟩
  | true =>
    obtain ⟨hwidens, hkeeps⟩ := h.judge_of_defers hq.mode_eq hr hd s
    exact ⟨hwidens.eq_or_settled.imp_right fun hw => ⟨hw.1, hw.2, rfl⟩, hkeeps⟩

/-- **The dialects settle what they settle without the added matcher.** -/
theorem Settles.dispatch (h : Settles ev j R) (hplain : IsPlain q₀)
    (hparts : RelatesParts a R q₀) (hq : Extends a R q q₀) {ds : List Dialect}
    (hds : ds.Pairwise fun d d' => d.defers v = true → d'.refutes v = false) (s : State) :
    ((firstVerdict j (ds.map .builtIn) q₀ v []).1 ≠ .indeterminate →
      (dispatch ev (ds.map .builtIn ++ [.added a]) q v s).1 =
        (firstVerdict j (ds.map .builtIn) q₀ v []).1) ∧
    Extends a R (dispatch ev (ds.map .builtIn ++ [.added a]) q v s).2.1 q₀ := by
  induction ds generalizing q s with
  | nil => exact ⟨fun hv => absurd rfl hv, hq.dispatch_added hparts v s⟩
  | cons d ds ih =>
    obtain ⟨hlater, hrest⟩ := List.pairwise_cons.1 hds
    obtain ⟨hq₁, hr⟩ := hq.ensureRead hparts (.builtIn d) s
    simp only [List.map_cons, List.cons_append, Pattern.dispatch]
    generalize q.ensureRead (.builtIn d) false s = x at hq₁ hr ⊢
    obtain ⟨r, q₁, s₁⟩ := x
    obtain ⟨hw, hr₂⟩ := h.judge hplain hq₁ (hr d rfl) v s₁
    dsimp only at hw hr₂ ⊢
    generalize Pattern.judge ev q₁ r v s₁ (.builtIn d) = y at hw hr₂ ⊢
    obtain ⟨w, r₂, s₂⟩ := y
    have hq₂ : Extends a R (q₁.putBack (Matcher.builtIn d).kind r₂) q₀ :=
      hq₁.putBack fun d' hd' => by cases hd'; exact hr₂
    have hnil : (verdictOf j q₀ (d.read q₀) v [] d).2 = [] :=
      congrArg Prod.snd (verdictOf_steady hplain.not_hasVariable (h.steadyOnParts hparts v) d [])
    dsimp only at hw ⊢
    have hopen : (verdictOf j q₀ (d.read q₀) v [] d).1 = .indeterminate →
        firstVerdict j (.builtIn d :: ds.map .builtIn) q₀ v [] =
          firstVerdict j (ds.map .builtIn) q₀ v [] :=
      fun ho => firstVerdict_cons_of_indeterminate (m := .builtIn d) (Prod.ext ho hnil) _
    rcases hw with rfl | ⟨ho, rfl, hd⟩
    · by_cases ho : (verdictOf j q₀ (d.read q₀) v [] d).1 = .indeterminate
      · rw [hopen ho, ho]
        exact ih hq₂ hrest s₂
      · rw [firstVerdict_cons_of_determinate (m := .builtIn d) rfl ho,
          if_pos (by simpa [Verdict.isDeterminate] using ho)]
        exact ⟨fun _ => rfl, hq₂⟩
    -- What remains to be asked without the added matcher can only find a match, too.
    · rw [hopen ho]
      exact ⟨fun hv => (firstVerdict_eq_isMatch (fun d' hd' => hlater d' hd' hd) hv).symm, hq₂⟩

/-! ## Levels -/

/-- **Every level settles what fresh judgement settles** without the added matcher. -/
theorem settles_evaluateWithin (a : Added) (n : Nat) :
    Settles (evaluateWithin n) (freshWithin n) (Extended a n) := by
  induction n with
  | zero => exact ⟨fun _ _ _ => rfl, fun _ _ _ hv => absurd rfl hv, fun hq _ _ => hq⟩
  | succ n ih =>
    have hstep : ∀ {q q₀ : Pattern}, Extended a (n + 1) q q₀ → ∀ v s,
        ((freshWithin (n + 1) q₀ v []).1 ≠ .indeterminate →
          (evaluateWithin (n + 1) q v s).1 = (freshWithin (n + 1) q₀ v []).1) ∧
        Extended a (n + 1) (evaluateWithin (n + 1) q v s).2.1 q₀ := by
      rintro q q₀ ⟨hplain, derived, hq⟩ v s
      have hderived : q.isRoot = false := (congrArg (·.isRoot) hq.forget).trans derived
      rw [freshWithin_of_not_isRoot derived, chainVerdict, hplain.matchers_eq]
      simp only [evaluateWithin, hderived, hq.matchers_eq hplain, Bool.false_eq_true, ↓reduceIte]
      obtain ⟨hv, hkeeps⟩ :=
        ih.dispatch hplain (hplain.relatesParts n) hq (Dialect.pairwise_all v) s
      exact ⟨hv, hplain, derived, hkeeps⟩
    refine ⟨?_, fun hq v s => (hstep hq v s).1, fun hq v s => (hstep hq v s).2⟩
    rintro q q₀ ⟨hplain, derived, -⟩ v
    exact freshWithin_steady hplain.not_hasVariable derived (n + 1) v

/-- **Extending the chain is conservative.** Whatever matcher is added to the standard chain, and
whatever the other settings are, a text without exclamation marks and dollar signs that has a
determinate verdict on a value keeps it. -/
theorem verdict_insert {settings : Settings} (hchain : settings.chain = .standard) (a : Added)
    {text : List Char} (hmark : '!' ∉ text) (hdollar : '$' ∉ text) (v : Value)
    (hv : ((root settings text).run v).1 ≠ .indeterminate) :
    (((root settings text).insert (.added a)).run v).1 = ((root settings text).run v).1 := by
  have hplain : IsPlain (root settings text) := ⟨hchain, hmark, hdollar⟩
  have hregular : settings.chain.IsRegular := hchain ▸ Chain.isBuiltIn_standard.isRegular
  have hq : Extends a (Extended a settings.depthLimit) ((root settings text).insert (.added a))
      (root settings text) := extends_insert _
  have hlevels : ((root settings text).insert (.added a)).levels = settings.depthLimit + 1 := rfl
  have hroot : ((root settings text).insert (.added a)).isRoot = true := rfl
  rw [verdict_root hregular, chainVerdict, hplain.matchers_eq] at hv ⊢
  simp only [run, evaluate, hlevels, evaluateWithin, hroot, ↓reduceIte, hq.matchers_eq hplain]
  obtain ⟨hsettled, -⟩ := (settles_evaluateWithin a settings.depthLimit).dispatch hplain
    (hplain.relatesParts settings.depthLimit) hq (Dialect.pairwise_all v) (State.clear ⟨[], []⟩)
  exact hsettled hv

/-- A list that is matched as a list only if its first element is compared with the length of the
text, and anyway by its second element. -/
def sampleLengths : Value := .list [.number (.ofNat 3), .string "b"]

theorem verdict_insert_sample :
    ((Settings.standardWith .inclusive true).chain = .standard ∧ '!' ∉ sampleIndex ∧
      '$' ∉ sampleIndex ∧
      ((root (.standardWith .inclusive true) sampleIndex).run sampleLengths).1 ≠ .indeterminate) ∧
    (((root (.standardWith .inclusive true) sampleIndex).insert (.added Session.sampleAdded)).run
        sampleLengths).1 =
      ((root (.standardWith .inclusive true) sampleIndex).run sampleLengths).1 := by
  have hmark : '!' ∉ sampleIndex := by decide
  have hdollar : '$' ∉ sampleIndex := by decide
  have hv : ((root (.standardWith .inclusive true) sampleIndex).run sampleLengths).1 ≠
      .indeterminate := by decide +kernel
  exact ⟨⟨rfl, hmark, hdollar, hv⟩,
    verdict_insert rfl Session.sampleAdded hmark hdollar sampleLengths hv⟩

end Pattern

end Sift
