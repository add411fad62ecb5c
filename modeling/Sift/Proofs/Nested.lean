import Sift.Proofs.Activities

/-!
# Nested patterns

What a cache holds of sub-patterns has the settings of the pattern and is one level deeper, and so
on downwards (`Pattern.IsNested`). No assumption is made on the matchers: what they keep may be out
of date.

**Main results.** Evaluating, and any other operation that changes no settings, keeps patterns
nested and logs nothing about patterns that are less deep (`Operation.carries_perform`). It leaves
the pattern as it is but for its cache (`Operation.forget_perform`).
-/

namespace Sift

namespace Pattern

/-- All sub-patterns of what is kept have the settings of the pattern, are one level deeper, and are
nested as well. -/
inductive IsNested : Pattern → Prop
  | intro {p : Pattern} :
      (∀ {k r q}, p.cached? k = some (some r) → q ∈ r.parts →
        q.settings = p.settings ∧ q.depth = p.depth + 1) →
      (∀ {k r q}, p.cached? k = some (some r) → q ∈ r.parts → IsNested q) → IsNested p

/-- A nested pattern with the given settings, at the given depth. -/
structure IsAt (c : Settings) (depth : Nat) (p : Pattern) : Prop where
  settings : p.settings = c
  depth : p.depth = depth
  nested : p.IsNested

open Activity

variable {ev : Evaluator} {p : Pattern} {c : Settings} {d : Nat} {k : Kind}

theorem isNested_of_cache_eq_nil (h : p.cache = []) : p.IsNested := by
  have hnone : ∀ {k r}, p.cached? k ≠ some (some r) := by simp [cached?, h]
  exact .intro (fun hr _ => absurd hr hnone) fun hr _ => absurd hr hnone

/-- What is kept under a kind has sub-patterns one level further down. -/
theorem IsAt.each (hp : p.IsAt c d) (k : Kind) :
    Reading.Each (IsAt c (d + 1)) ((p.cached? k).bind id) := by
  intro r hr q hq
  have hentry : p.cached? k = some (some r) := by
    cases hk : p.cached? k with
    | none => rw [hk] at hr; cases hr
    | some r' => rw [hk] at hr; exact congrArg some hr
  obtain ⟨hparts, hinner⟩ := hp.nested
  obtain ⟨hsettings, hdepth⟩ := hparts hentry hq
  exact ⟨hsettings.trans hp.settings, by rw [hdepth, hp.depth], hinner hentry hq⟩

theorem IsAt.store (hp : p.IsAt c d) {r : Option (Reading Pattern)}
    (hr : Reading.Each (IsAt c (d + 1)) r) : (p.store k r).IsAt c d := by
  have hparts : ∀ {k' r' q}, (p.store k r).cached? k' = some (some r') → q ∈ r'.parts →
      q.IsAt c (d + 1) := by
    intro k' r' q hr' hq
    rw [cached?_store] at hr'
    split_ifs at hr' with hk
    · exact hr r' (Option.some.inj hr') q hq
    · exact hp.each k' r' (by rw [hr']; rfl) q hq
  refine ⟨hp.settings, hp.depth, .intro (fun hr' hq => ?_) fun hr' hq => (hparts hr' hq).nested⟩
  obtain ⟨hsettings, hdepth, -⟩ := hparts hr' hq
  exact ⟨hsettings.trans hp.settings.symm, hdepth.trans (congrArg (· + 1) hp.depth.symm)⟩

theorem IsAt.putBack (hp : p.IsAt c d) {r : Option (Reading Pattern)}
    (hr : Reading.Each (IsAt c (d + 1)) r) : (p.putBack k r).IsAt c d := by
  cases r with
  | none => exact hp
  | some r => exact hp.store hr

/-- What is read just now is derived from the pattern. -/
theorem IsAt.each_read (hp : p.IsAt c d) (m : Matcher) :
    Reading.Each (IsAt c (d + 1)) (m.read p) := by
  intro r hr q hq
  have hkept := kept_read_of_derive (p := p) (R := fun q _ => q.IsAt c (d + 1))
    (fun _ text => ⟨hp.settings, congrArg (· + 1) hp.depth, isNested_of_cache_eq_nil rfl⟩) m
  rw [hr] at hkept
  cases hkept with
  | some hlift =>
    obtain ⟨i, hi⟩ := Reading.mem_parts_iff.1 hq
    obtain ⟨-, -, hpart⟩ := hlift.part? hi
    exact hpart

/-! ## Evaluating -/

/-- The reading of a matcher is kept, or what is kept is left. -/
theorem IsAt.ensureRead (hp : p.IsAt c d) (m : Matcher) (force : Bool) (s : State) :
    Reading.Each (IsAt c (d + 1)) (p.ensureRead m force s).1 ∧
      (p.ensureRead m force s).2.1.IsAt c d ∧
      (p.ensureRead m force s).2.2.above d = s.above d := by
  simp only [Pattern.ensureRead]
  split_ifs
  · refine ⟨hp.each_read m, hp.store (hp.each_read m), ?_⟩
    exact List.filter_cons_of_neg (by simp [hp.depth])
  · exact ⟨hp.each m.kind, hp, rfl⟩

/-- The evaluator carries nested patterns at all places, and logs nothing about patterns that are
less deep. -/
def CarriesNested (ev : Evaluator) : Prop :=
  ∀ c d v, Carries (IsAt c d) d fun p s => ev p v s

/-- What a matcher does between reading and putting back is about deeper patterns. -/
theorem IsAt.judge (h : CarriesNested ev) (hp : p.IsAt c d) {r : Option (Reading Pattern)}
    (hr : Reading.Each (IsAt c (d + 1)) r) (q : Pattern) (v : Value) (m : Matcher) (s : State) :
    (p.putBack k (Pattern.judge ev q r v s m).2.1).IsAt c d ∧
      (Pattern.judge ev q r v s m).2.2.above (d + 1) = s.above (d + 1) :=
  have hjudge := carries_judge (h c (d + 1)) q v m
  ⟨hp.putBack (hjudge.keeps r hr s), hjudge.above_eq r hr s⟩

theorem carries_step (h : CarriesNested ev) (v : Value) (m : Matcher) :
    Carries (IsAt c d) d (step ev v m) := by
  refine carries_of fun p hp s => ?_
  obtain ⟨hr, hp₁, hlog⟩ := hp.ensureRead m false s
  obtain ⟨hp₂, hlog'⟩ := hp₁.judge h hr (p.ensureRead m false s).2.1 v m
    (p.ensureRead m false s).2.2
  exact ⟨hp₂, (State.above_eq_of_le hlog' d.le_succ).trans hlog⟩

theorem carries_dispatch (h : CarriesNested ev) (ms : List Matcher) (v : Value) :
    Carries (IsAt c d) d fun p s => dispatch ev ms p v s :=
  (compositional_carries (IsAt c d) d).dispatch fun m _ => carries_step h v m

/-- **Evaluating keeps patterns nested**, and what it logs is about the pattern and deeper ones. -/
theorem carriesNested_evaluateWithin (n : Nat) : CarriesNested (evaluateWithin n) := by
  induction n with
  | zero => exact fun c d v => carries_answer Verdict.indeterminate
  | succ n ih =>
    intro c d v
    exact carries_evaluateWithin_of (fun v m => carries_step ih v m) v

/-! ## Operations -/

/-- What a matcher reads, if there is one, is kept. -/
theorem IsAt.reading? (hp : p.IsAt c d) (k : Kind) (s : State) :
    Reading.Each (IsAt c (d + 1)) (p.reading? k s).1 ∧ (p.reading? k s).2.1.IsAt c d ∧
      (p.reading? k s).2.2.above d = s.above d := by
  unfold Pattern.reading?
  cases p.settings.chain.get? k with
  | none => exact ⟨Reading.each_none _, hp, rfl⟩
  | some m => exact hp.ensureRead m false s

/-- Has some matchers read, one after the other. -/
def readEach (ms : List Matcher) (force : Bool) (x : Pattern × State) : Pattern × State :=
  ms.foldl (fun x m => (x.1.ensureRead m force x.2).2) x

theorem readAll_eq (p : Pattern) (force : Bool) (s : State) :
    p.readAll force s = readEach p.settings.chain.matchers force (p, s) := rfl

theorem IsAt.readEach (hp : p.IsAt c d) (ms : List Matcher) (force : Bool) (s : State) :
    (Pattern.readEach ms force (p, s)).1.IsAt c d ∧
      (Pattern.readEach ms force (p, s)).2.above d = s.above d := by
  refine List.foldlRecOn (motive := fun x : Pattern × State =>
    x.1.IsAt c d ∧ x.2.above d = s.above d) _ _ ⟨hp, rfl⟩ ?_
  intro x hx m _
  obtain ⟨-, hkeeps, hlog⟩ := hx.1.ensureRead m force x.2
  exact ⟨hkeeps, hlog.trans hx.2⟩

theorem carries_readAll (force : Bool) :
    Carries (IsAt c d) d fun p s => (Answer.done, p.readAll force s) :=
  carries_of fun _ hp s => hp.readEach _ force s

theorem IsAt.readKind (hp : p.IsAt c d) (k : Kind) (force : Bool) (s : State) :
    (p.readKind k force s).2.1.IsAt c d ∧ (p.readKind k force s).2.2.above d = s.above d := by
  unfold Pattern.readKind
  cases p.settings.chain.get? k with
  | none => exact ⟨hp, rfl⟩
  | some m => exact (hp.ensureRead m force s).2

/-- Who asks for a reading has the matcher read if need be. -/
theorem snd_reading? (p : Pattern) (k : Kind) (s : State) :
    (p.reading? k s).2 = (p.readKind k false s).2 := by
  unfold Pattern.reading? Pattern.readKind
  cases p.settings.chain.get? k with
  | none => rfl
  | some m => rfl

/-- Work on a sub-pattern begins with asking for the reading. If there is no such sub-pattern, that
is all; otherwise it is kept as it is afterwards. -/
theorem onPart_cases (p : Pattern) (k : Kind) (i : Nat)
    (f : Pattern → State → Answer × Pattern × State) (s : State) :
    p.onPart k i f s = (.done, (p.reading? k s).2) ∨
      ∃ r q, (p.reading? k s).1 = some r ∧ r.part? i = some q ∧ (p.onPart k i f s).2 =
        ((p.reading? k s).2.1.store k (some (r.setPart i (f q (p.reading? k s).2.2).2.1)),
          (f q (p.reading? k s).2.2).2.2) := by
  unfold Pattern.onPart
  generalize p.reading? k s = x
  obtain ⟨r, p₁, s₁⟩ := x
  cases r with
  | none => exact .inl rfl
  | some r =>
    dsimp only
    cases hq : r.part? i with
    | none => exact .inl rfl
    | some q => exact .inr ⟨r, q, rfl, hq, rfl⟩

/-- Work on a sub-pattern is about deeper patterns, and the sub-pattern is kept. -/
theorem carries_onPart {f : Pattern → State → Answer × Pattern × State}
    (hf : Carries (IsAt c (d + 1)) (d + 1) f) (k : Kind) (i : Nat) :
    Carries (IsAt c d) d fun p s => p.onPart k i f s := by
  refine carries_of fun p hp s => ?_
  obtain ⟨hread, hp₁, hlog⟩ := hp.reading? k s
  rcases onPart_cases p k i f s with hnone | ⟨r, q, hr, hq, hpart⟩
  · rw [hnone]
    exact ⟨hp₁, hlog⟩
  · have hparts := hread r hr
    have hq := hparts q (Reading.mem_parts_iff.2 ⟨i, hq⟩)
    have hkeeps := hf.keeps q hq (p.reading? k s).2.2
    have hlog' := State.above_eq_of_le (hf.above_eq q hq (p.reading? k s).2.2) d.le_succ
    rw [hpart]
    refine ⟨hp₁.store (Reading.each_some.2 fun q' hq' => ?_), hlog'.trans hlog⟩
    rcases Reading.mem_parts_setPart hq' with rfl | hold
    · exact hkeeps
    · exact hparts q' hold

/-! ## What stays -/

theorem forget_ensureRead (p : Pattern) (m : Matcher) (force : Bool) (s : State) :
    (p.ensureRead m force s).2.1.forget = p.forget := by
  simp only [ensureRead]
  split_ifs
  · rfl
  · rfl

theorem forget_putBack (p : Pattern) (k : Kind) (r : Option (Reading Pattern)) :
    (p.putBack k r).forget = p.forget := by
  cases r with
  | none => rfl
  | some r => rfl

theorem forget_dispatch (ev : Evaluator) (ms : List Matcher) (p : Pattern) (v : Value) (s : State) :
    (dispatch ev ms p v s).2.1.forget = p.forget := by
  induction ms generalizing p s with
  | nil => rfl
  | cons m ms ih =>
    have hstep : (step ev v m p s).2.1.forget = p.forget :=
      (forget_putBack _ _ _).trans (forget_ensureRead p m false s)
    rw [congrFun (congrFun (dispatch_cons_eq ev m ms v) p) s]
    simp only [Activity.andThen]
    split_ifs
    · exact hstep
    · exact (ih _ _).trans hstep

theorem forget_evaluateWithin (n : Nat) (p : Pattern) (v : Value) (s : State) :
    (evaluateWithin n p v s).2.1.forget = p.forget := by
  cases n with
  | zero => rfl
  | succ n =>
    simp only [evaluateWithin]
    split_ifs
    · exact forget_dispatch _ _ p v s.clear
    · exact forget_dispatch _ _ p v s.clear
    · exact forget_dispatch _ _ p v s

theorem forget_evaluate (p : Pattern) (v : Value) (s : State) :
    (p.evaluate v s).2.1.forget = p.forget :=
  forget_evaluateWithin p.levels p v s

theorem forget_readEach (ms : List Matcher) (force : Bool) (x : Pattern × State) :
    (readEach ms force x).1.forget = x.1.forget := by
  induction ms generalizing x with
  | nil => rfl
  | cons m ms ih => exact (ih _).trans (forget_ensureRead x.1 m force x.2)

theorem forget_readKind (p : Pattern) (k : Kind) (force : Bool) (s : State) :
    (p.readKind k force s).2.1.forget = p.forget := by
  unfold Pattern.readKind
  cases p.settings.chain.get? k with
  | none => rfl
  | some m => exact forget_ensureRead p m force s

theorem forget_reading? (p : Pattern) (k : Kind) (s : State) :
    (p.reading? k s).2.1.forget = p.forget := by
  rw [snd_reading?]
  exact forget_readKind p k false s

theorem forget_onPart (p : Pattern) (k : Kind) (i : Nat)
    (f : Pattern → State → Answer × Pattern × State) (s : State) :
    (p.onPart k i f s).2.1.forget = p.forget := by
  have hread := forget_reading? p k s
  rcases onPart_cases p k i f s with hnone | ⟨r, q, -, -, hpart⟩
  · rw [hnone]
    exact hread
  · rw [hpart]
    exact hread

end Pattern

open Pattern Activity

/-- **Operations that change no settings are well-behaved**: they keep patterns nested, and what
they log is about the pattern and deeper ones. -/
theorem Operation.carries_perform {o : Operation} (ho : o.IsShared) (c : Settings) (d : Nat) :
    Carries (IsAt c d) d fun p s => o.perform p s := by
  induction o generalizing c d with
  | evaluate v | ask v =>
    exact ⟨fun p => (carriesNested_evaluateWithin p.levels c d v).keeps p,
      fun p => (carriesNested_evaluateWithin p.levels c d v).above_eq p⟩
  | readAll force => exact carries_readAll force
  | readKind k force => exact carries_of fun p hp s => hp.readKind k force s
  | reading k => exact carries_of fun p hp s => (hp.reading? k s).2
  | onPart k i o ih => exact carries_onPart (ih ho c (d + 1)) k i
  | setMode _ | setIgnoreCase _ | insert _ | erase _ => exact ho.elim
  | _ => exact ⟨fun p hp s => hp, fun p hp s => rfl⟩

/-- **What an operation makes of a pattern**, its cache apart. -/
theorem Operation.forget_perform_eq (o : Operation) (p : Pattern) (s : State) :
    (o.perform p s).2.1.forget = o.reconfigure p.forget := by
  cases o with
  | evaluate v | ask v => exact p.forget_evaluate v s
  | readAll force => exact forget_readEach _ force (p, s)
  | readKind k force => exact p.forget_readKind k force s
  | reading k => exact p.forget_reading? k s
  | onPart k i o => exact p.forget_onPart k i _ s
  | _ => rfl

/-- **Operations that change no settings** leave the pattern as it is but for its cache. -/
theorem Operation.forget_perform {o : Operation} (ho : o.IsShared) (p : Pattern) (s : State) :
    (o.perform p s).2.1.forget = p.forget :=
  (o.forget_perform_eq p s).trans (ho.reconfigure_eq p.forget)

end Sift
