import Sift.Proofs.Growth
import Sift.Proofs.Nested

/-!
# Evaluating again

An activity that was performed once finds everything read when it is performed again, on what it
has left behind or on anything that has grown from there. It gives the same answer, leaves the same
variables, and logs nothing (`Activity.Replays`). As for everything that is said about activities,
it is enough to show this of the smallest ones.

**Main results.** Evaluating replays, at every level (`Pattern.replays_evaluateWithin`), so
evaluating a root pattern once more reads nothing (`Pattern.evaluate_again`).
-/

namespace Sift

/-! ## Activities that replay -/

namespace Activity

variable {P α β : Type} {D : P → Prop} {d : Nat} {G : P → P → Prop}

/-- An activity has the outcome of an earlier one, and logs nothing. -/
structure SameAgain (first again : α × P × State) (t : State) : Prop where
  answer : again.1 = first.1
  bindings : again.2.2.bindings = first.2.2.bindings
  log : again.2.2.log = t.log

/-- What the activity leaves has grown, and if it is performed again on what has grown from there,
with the same variables, the outcome is the same and nothing is logged. -/
structure Replays (D : P → Prop) (d : Nat) (G : P → P → Prop) (f : Activity P α) : Prop
    extends Carries D d f where
  grows : ∀ p, D p → ∀ s, G p (f p s).2.1
  again : ∀ p, D p → ∀ s q, D q → G (f p s).2.1 q → ∀ t : State, t.bindings = s.bindings →
    SameAgain (f p s) (f q t) t

/-- Performing the activity on a thing leaves something that has grown, and performing it again on
what has grown from there has the same outcome and logs nothing. -/
def ReplaysOn (D : P → Prop) (G : P → P → Prop) (f : Activity P α) (p : P) : Prop :=
  ∀ s, G p (f p s).2.1 ∧ ∀ q, D q → G (f p s).2.1 q → ∀ t : State, t.bindings = s.bindings →
    SameAgain (f p s) (f q t) t

theorem Carries.replays {f : Activity P α} (hf : Carries D d f)
    (h : ∀ p, D p → ReplaysOn D G f p) : Replays D d G f where
  toCarries := hf
  grows p hp s := (h p hp s).1
  again p hp s := (h p hp s).2

/-- What is looked at and left alone replays. -/
theorem replaysOn_of_left {f : Activity P α} {p : P} (hG : G p p) (a : α)
    (h : ∀ q, G p q → ∀ s, f q s = (a, q, s)) : ReplaysOn D G f p := by
  intro s
  rw [h p hG]
  refine ⟨hG, fun q _ hgrown t ht => ?_⟩
  rw [h q hgrown]
  exact ⟨rfl, ht, rfl⟩

theorem replays_answer (hG : ∀ p, G p p) (a : α) : Replays D d G (answer a) where
  toCarries := carries_answer a
  grows p _ _ := hG p
  again _ _ _ _ _ _ _ ht := ⟨rfl, ht, rfl⟩

theorem Replays.andThen (hG : ∀ p₁ p₂ p₃, G p₁ p₂ → G p₂ p₃ → G p₁ p₃) {f : Activity P α}
    {g : α → Activity P β} (hf : Replays D d G f) (hg : ∀ a, Replays D d G (g a)) :
    Replays D d G (f.andThen g) where
  toCarries := hf.toCarries.andThen fun a => (hg a).toCarries
  grows p hp s := hG _ _ _ (hf.grows p hp s) ((hg _).grows _ (hf.keeps p hp s) _)
  again := by
    intro p hp s q hq hgrown t ht
    have hp₁ := hf.keeps p hp s
    -- The second run of `f` starts from what has grown from its first run.
    have hq₁ := hf.keeps q hq t
    have hgrown₁ := hG _ _ _ ((hg _).grows _ hp₁ (f p s).2.2) hgrown
    obtain ⟨hanswer, hbindings, hlog⟩ := hf.again p hp s q hq hgrown₁ t ht
    have hgrown₂ := hG _ _ _ hgrown (hf.grows q hq t)
    obtain ⟨hanswer', hbindings', hlog'⟩ := (hg (f p s).1).again _ hp₁ (f p s).2.2 _ hq₁ hgrown₂
      (f q t).2.2 hbindings
    simp only [Activity.andThen, hanswer]
    exact ⟨hanswer', hbindings', hlog'.trans hlog⟩

theorem replays_allOf (hG : ∀ p, G p p) {fs : Nat → Option (Activity P Bool)}
    (h : ∀ i f, fs i = some f → Replays D d G f) :
    Replays (fun ps => ∀ p ∈ ps, D p) d (List.Forall₂ G) (allOf fs) := by
  have hrefl : ∀ ps, List.Forall₂ G ps ps := fun ps => List.forall₂_same.2 fun p _ => hG p
  refine ⟨carries_allOf fun i f hf => (h i f hf).toCarries, fun ps => ?_, fun ps => ?_⟩
  · induction ps generalizing fs with
    | nil => exact fun _ _ => .nil
    | cons p ps ih =>
      intro hps s
      obtain ⟨hp, hps⟩ := List.forall_mem_cons.1 hps
      cases hf : fs 0 with
      | none =>
        simp only [allOf, hf]
        exact hrefl _
      | some f =>
        have hhead := (h 0 f hf).grows p hp s
        by_cases hyes : (f p s).1 = true
        · simp only [allOf, hf, if_pos hyes]
          exact .cons hhead (ih (fun i => h (i + 1)) hps _)
        · simp only [allOf, hf, if_neg hyes]
          exact .cons hhead (hrefl ps)
  · induction ps generalizing fs with
    | nil =>
      intro _ s qs _ hgrown t ht
      cases hgrown with
      | nil => exact ⟨rfl, ht, rfl⟩
    | cons p ps ih =>
      intro hps s qs hqs hgrown t ht
      obtain ⟨hp, hps⟩ := List.forall_mem_cons.1 hps
      cases hf : fs 0 with
      | none =>
        simp only [allOf, hf] at hgrown ⊢
        cases hgrown with
        | cons _ _ =>
          simp only [allOf, hf]
          exact ⟨rfl, ht, rfl⟩
      | some f =>
        by_cases hyes : (f p s).1 = true
        · simp only [allOf, hf, if_pos hyes] at hgrown ⊢
          cases hgrown with
          | cons hhead htail =>
            obtain ⟨hq, hqs⟩ := List.forall_mem_cons.1 hqs
            obtain ⟨hanswer, hbindings, hlog⟩ := (h 0 f hf).again p hp s _ hq hhead t ht
            obtain ⟨hanswer', hbindings', hlog'⟩ :=
              ih (fun i => h (i + 1)) hps (f p s).2.2 _ hqs htail _ hbindings
            have hyes' := hanswer.trans hyes
            simp only [allOf, hf, if_pos hyes']
            exact ⟨hanswer', hbindings', hlog'.trans hlog⟩
        · simp only [allOf, hf, if_neg hyes] at hgrown ⊢
          cases hgrown with
          | cons hhead _ =>
            obtain ⟨hq, -⟩ := List.forall_mem_cons.1 hqs
            obtain ⟨hanswer, hbindings, hlog⟩ := (h 0 f hf).again p hp s _ hq hhead t ht
            have hno : ¬(f _ t).1 = true := fun hyes' => hyes (hanswer.symm.trans hyes')
            simp only [allOf, hf, if_neg hno]
            exact ⟨rfl, hbindings, hlog⟩

end Activity

namespace Pattern

open Activity

/-! ## Judging again -/

section Judging

variable {ev : Evaluator} {D : Pattern → Prop} {d : Nat} {G : Pattern → Pattern → Prop}

theorem compositional_replays (hG : ∀ p, G p p) (hG' : ∀ p₁ p₂ p₃, G p₁ p₂ → G p₂ p₃ → G p₁ p₃) :
    Compositional (Replays D d G) (Replays (fun ps => ∀ p ∈ ps, D p) d (List.Forall₂ G)) where
  answer := replays_answer hG
  andThen := .andThen hG'
  allOf := replays_allOf hG
  ofLength n hf := by
    refine ⟨(compositional_carries D d).ofLength n hf.toCarries, ?_, ?_⟩
    · intro ps hps s
      by_cases hlength : n = ps.length
      · simp only [ofLength, if_pos hlength]
        exact hf.grows ps hps s
      · simp only [ofLength, if_neg hlength]
        exact List.forall₂_same.2 fun p _ => hG p
    · intro ps hps s qs hqs hgrown t ht
      by_cases hlength : n = ps.length
      · simp only [ofLength, if_pos hlength] at hgrown ⊢
        have hlengths := (hf.grows ps hps s).length_eq.trans hgrown.length_eq
        rw [if_pos (hlength.trans hlengths)]
        exact hf.again ps hps s qs hqs hgrown t ht
      · simp only [ofLength, if_neg hlength] at hgrown ⊢
        rw [if_neg (hgrown.length_eq ▸ hlength)]
        exact ⟨rfl, ht, rfl⟩

/-- A reading of a form that is not its own says nothing to a dialect. -/
theorem judge_of_not_produces {dialect : Dialect} {r : Reading Pattern}
    (h : dialect.produces r = false) (p : Pattern) (v : Value) (s : State) :
    judge ev p (some r) v s (.builtIn dialect) =
      ((judge ev p none v ⟨[], []⟩ (.builtIn dialect)).1, some r, s) := by
  cases dialect with
  | anything | nullOrEmpty => rfl
  | _ => cases r <;> first | rfl | cases h

theorem produces_eq {r r' : Reading Pattern} (h : Reading.Lift G r r') (dialect : Dialect) :
    dialect.produces r' = dialect.produces r := by
  cases dialect <;> cases h <;> rfl

/-- Readings of one form, made of parts that are related if and only if the readings are. -/
structure Wraps {P : Type} (D : Pattern → Prop) (G : Pattern → Pattern → Prop) (D' : P → Prop)
    (G' : P → P → Prop) (wrap : P → Reading Pattern) : Prop where
  each {x : P} : Reading.Each D (some (wrap x)) → D' x
  lift {x x' : P} : G' x x' → Reading.Lift G (wrap x) (wrap x')
  exists_of_lift {x : P} {r : Reading Pattern} :
    Reading.Lift G (wrap x) r → ∃ x', r = wrap x' ∧ G' x x'

theorem wraps_negation : Wraps D G D G Reading.negation where
  each h := Reading.each_some.1 h _ (List.mem_singleton_self _)
  lift := .negation
  exists_of_lift := by
    intro q r h
    cases h with
    | negation hq => exact ⟨_, rfl, hq⟩

theorem wraps_property (names : List String) : Wraps D G D G (Reading.property names) where
  each h := Reading.each_some.1 h _ (List.mem_singleton_self _)
  lift := .property names
  exists_of_lift := by
    intro q r h
    cases h with
    | property _ hq => exact ⟨_, rfl, hq⟩

theorem wraps_list : Wraps D G (fun ps => ∀ p ∈ ps, D p) (List.Forall₂ G) Reading.list where
  each := Reading.each_some.1
  lift := .list
  exists_of_lift := by
    intro ps r h
    cases h with
    | list hps => exact ⟨_, rfl, hps⟩

theorem wraps_fields : Wraps D G (fun ps => ∀ p ∈ ps, D p) (List.Forall₂ G) Reading.fields where
  each := Reading.each_some.1
  lift := .fields
  exists_of_lift := by
    intro ps r h
    cases h with
    | fields hps => exact ⟨_, rfl, hps⟩

/-- Work on the parts of a reading replays as work on the reading. -/
theorem replaysOn_wrap {P α : Type} {D' : P → Prop} {G' : P → P → Prop}
    {wrap : P → Reading Pattern} (hwrap : Wraps D G D' G' wrap) {f : Activity P α}
    (hf : Replays D' d G' f) (post : α → Verdict)
    {j : Activity (Option (Reading Pattern)) Verdict}
    (hj : ∀ x s, j (some (wrap x)) s = (post (f x s).1, some (wrap (f x s).2.1), (f x s).2.2))
    {x : P} (hx : Reading.Each D (some (wrap x))) :
    ReplaysOn (Reading.Each D) (Reading.Kept G) j (some (wrap x)) := by
  intro s
  rw [hj]
  refine ⟨.some (hwrap.lift (hf.grows x (hwrap.each hx) s)), fun r' hr' hgrown t ht => ?_⟩
  cases hgrown with
  | some hlift =>
    obtain ⟨x', rfl, hx'⟩ := hwrap.exists_of_lift hlift
    obtain ⟨hanswer, hbindings, hlog⟩ :=
      hf.again x (hwrap.each hx) s x' (hwrap.each hr') hx' t ht
    rw [hj]
    exact ⟨congrArg post hanswer, hbindings, hlog⟩

/-- What a dialect makes of a reading of its own replays. -/
theorem replaysOn_of_produces (hG : ∀ p, G p p)
    (hG' : ∀ p₁ p₂ p₃, G p₁ p₂ → G p₂ p₃ → G p₁ p₃) (h : ∀ v, Replays D d G fun p s => ev p v s)
    (p : Pattern) (v : Value) {dialect : Dialect} {r : Reading Pattern}
    (hown : dialect.produces r = true) (hr : Reading.Each D (some r)) :
    ReplaysOn (Reading.Each D) (Reading.Kept G) (fun r s => judge ev p r v s (.builtIn dialect))
      (some r) := by
  cases dialect with
  | anything | nullOrEmpty => cases hown
  | glob | comparison | range | regex =>
    refine fun s => ⟨.refl hG _, fun r' _ hgrown t ht => ?_⟩
    cases hgrown with
    | some hlift => cases hlift <;> exact ⟨rfl, ht, rfl⟩
  | capture =>
    cases r with
    | capture name =>
      refine fun s => ⟨.refl hG _, fun r' _ hgrown t ht => ?_⟩
      cases hgrown with
      | some hlift =>
        cases hlift with
        | capture _ =>
          simp only [judge, judgeDialect, judgeCapture, ht]
          exact ⟨rfl, rfl, rfl⟩
    | _ => cases hown
  | negation =>
    cases r with
    | negation q => exact replaysOn_wrap wraps_negation (h v) Verdict.negate (fun _ _ => rfl) hr
    | _ => cases hown
  | list =>
    cases r with
    | list items =>
      by_cases hlist : ∃ vs, v = .list vs
      · obtain ⟨vs, rfl⟩ := hlist
        have hlist := (compositional_replays hG hG').matchList h p.settings.mode vs
        exact replaysOn_wrap wraps_list hlist Verdict.matchOrDefer (fun _ _ => rfl) hr
      · refine replaysOn_of_left (.refl hG _) .indeterminate fun r' hkept s => ?_
        cases hkept with
        | some hlift =>
          cases hlift
          cases v with
          | list vs => exact absurd ⟨vs, rfl⟩ hlist
          | _ => rfl
    | _ => cases hown
  | multiField =>
    cases r with
    | fields groups =>
      have hall := (compositional_replays hG hG').matchAll h v
      exact replaysOn_wrap wraps_fields hall Verdict.matchOrDefer (fun _ _ => rfl) hr
    | _ => cases hown
  | property =>
    cases r with
    | property names q =>
      by_cases hnull : v.isNull = true
      · refine replaysOn_of_left (.refl hG _) .indeterminate fun r' hkept s => ?_
        cases hkept with
        | some hlift =>
          cases hlift
          exact if_pos hnull
      · exact replaysOn_wrap (wraps_property names) (h (v.path names))
          (fun verdict => .matchOrDefer (verdict = .isMatch)) (fun _ _ => if_neg hnull) hr
    | _ => cases hown

/-- **Judging replays** if evaluating sub-patterns does. -/
theorem replays_judge (hG : ∀ p, G p p) (hG' : ∀ p₁ p₂ p₃, G p₁ p₂ → G p₂ p₃ → G p₁ p₃)
    (h : ∀ v, Replays D d G fun p s => ev p v s) (p : Pattern) (v : Value) (m : Matcher) :
    Replays (Reading.Each D) d (Reading.Kept G) fun r s => judge ev p r v s m := by
  refine (carries_judge (fun v => (h v).toCarries) p v m).replays fun r hr => ?_
  cases m with
  | added a =>
    refine replaysOn_of_left (.refl hG _) (a.judge v (r.bind Matcher.dataOf) p.view)
      fun r' hkept s => ?_
    have hdata : r'.bind Matcher.dataOf = r.bind Matcher.dataOf := by
      cases hkept with
      | none => rfl
      | some hlift => cases hlift <;> rfl
    simp only [judge, hdata]
  | builtIn dialect =>
    cases r with
    | none =>
      refine replaysOn_of_left (.refl hG _) (judge ev p none v ⟨[], []⟩ (.builtIn dialect)).1
        fun r' hkept s => ?_
      cases hkept
      cases dialect <;> rfl
    | some r =>
      by_cases hown : dialect.produces r = true
      · exact replaysOn_of_produces hG hG' h p v hown hr
      · rw [Bool.not_eq_true] at hown
        refine replaysOn_of_left (.refl hG _) (judge ev p none v ⟨[], []⟩ (.builtIn dialect)).1
          fun r' hkept s => ?_
        cases hkept with
        | some hlift => exact judge_of_not_produces ((produces_eq hlift dialect).trans hown) p v s

end Judging

/-! ## Evaluating again -/

section Evaluating

variable {ev : Evaluator} {c : Settings} {d n : Nat} {k : Kind} {p : Pattern}

/-- Nothing that is kept enters into a judgement but the reading. -/
theorem judge_forget (ev : Evaluator) (p : Pattern) (r : Option (Reading Pattern)) (v : Value)
    (s : State) (m : Matcher) : judge ev p.forget r v s m = judge ev p r v s m := by
  cases m with
  | added a => rfl
  | builtIn dialect => cases dialect <;> rfl

/-- A matcher that reads first finds its reading again, and what it makes of it replays. -/
theorem replays_step_of_readsFirst (hev : CarriesNested ev)
    (h : ∀ v, Replays (IsAt c (d + 1)) (d + 1) (Grows n) fun p s => ev p v s) (v : Value)
    {m : Matcher} (hm : m.ReadsFirst) : Replays (IsAt c d) d (Grows (n + 1)) (step ev v m) := by
  have hjudge := fun p => replays_judge (grows_refl n) (fun _ _ _ => Grows.trans) h p v m
  refine (carries_step hev v m).replays fun p hp s => ?_
  obtain ⟨hr, -, -⟩ := hp.ensureRead m false s
  obtain ⟨hgrows, hentry, hbindings⟩ := grows_ensureRead (n := n) hm p s
  simp only [step]
  generalize p.ensureRead m false s = x at hr hgrows hentry hbindings ⊢
  obtain ⟨r, p₁, s₁⟩ := x
  obtain ⟨hgrows', hentry'⟩ := grows_putBack hentry ((hjudge p₁).grows r hr s₁)
  refine ⟨hgrows.trans hgrows', fun q hq hgrown t ht => ?_⟩
  -- The second time the reading is there, grown from what the first time has left of it.
  obtain ⟨r', hentry'', hkept⟩ := hgrown.2 m.kind _ hentry'
  have hr' : Reading.Each (IsAt c (d + 1)) r' := by
    have heach := hq.each m.kind
    rwa [hentry''] at heach
  have hforget := hgrown.forget_eq.trans hgrows'.forget_eq
  rw [ensureRead_of_cached?_eq_some hm hentry'']
  dsimp only
  rw [← judge_forget ev q, hforget, judge_forget]
  obtain ⟨hanswer, hbindings', hlog⟩ :=
    (hjudge p₁).again r hr s₁ r' hr' hkept t (ht.trans hbindings.symm)
  exact ⟨hanswer, hbindings', hlog⟩

/-- A matcher that never reads looks at the text only. -/
theorem replays_step_of_readsNever (hev : CarriesNested ev) (v : Value) {m : Matcher}
    (hm : m.ReadsNever) : Replays (IsAt c d) d (Grows (n + 1)) (step ev v m) := by
  have hstep : ∀ p s, step ev v m p s = ((judge ev p none v ⟨[], []⟩ m).1,
      p.putBack m.kind ((p.cached? m.kind).bind id), s) := by
    intro p s
    obtain ⟨hnever, hjudge⟩ := hm p ((p.cached? m.kind).bind id)
    simp only [step, ensureRead, hnever, Bool.or_false, Bool.false_eq_true, ↓reduceIte, hjudge]
  refine ⟨carries_step hev v m, fun p _ s => ?_, fun p _ s q _ hgrown t ht => ?_⟩
  · rw [hstep]
    dsimp only
    cases hentry : p.cached? m.kind with
    | none => exact grows_refl _ p
    | some r => exact (grows_putBack hentry (.refl (grows_refl n) r)).1
  · have hforget : q.forget = p.forget := by
      have hleft := hgrown.forget_eq
      rw [hstep] at hleft
      exact hleft.trans (forget_putBack p m.kind _)
    rw [hstep, hstep]
    refine ⟨?_, ht, rfl⟩
    dsimp only
    rw [← judge_forget ev q, hforget, judge_forget]

theorem replays_step (hev : CarriesNested ev)
    (h : ∀ v, Replays (IsAt c (d + 1)) (d + 1) (Grows n) fun p s => ev p v s) (v : Value)
    {m : Matcher} (hm : m.IsFrugal) : Replays (IsAt c d) d (Grows (n + 1)) (step ev v m) := by
  rcases hm with hfirst | hnever
  · exact replays_step_of_readsFirst hev h v hfirst
  · exact replays_step_of_readsNever hev v hnever

theorem replays_dispatch (hev : CarriesNested ev)
    (h : ∀ v, Replays (IsAt c (d + 1)) (d + 1) (Grows n) fun p s => ev p v s) {ms : List Matcher}
    (hms : ∀ m ∈ ms, m.IsFrugal) (v : Value) :
    Replays (IsAt c d) d (Grows (n + 1)) fun p s => dispatch ev ms p v s :=
  have hcompositional : Compositional (Replays (IsAt c d) d (Grows (n + 1))) _ :=
    compositional_replays (grows_refl (n + 1)) fun _ _ _ => Grows.trans
  hcompositional.dispatch fun m hm => replays_step hev h v (hms m hm)

/-- **Evaluating replays** if all matchers are frugal. -/
theorem replays_evaluateWithin (hc : ∀ m ∈ c.chain.matchers, m.IsFrugal) (n d : Nat) (v : Value) :
    Replays (IsAt c d) d (Grows n) fun p s => evaluateWithin n p v s := by
  induction n generalizing d v with
  | zero => exact replays_answer (grows_refl 0) Verdict.indeterminate
  | succ n ih =>
    have hdispatch := replays_dispatch (carriesNested_evaluateWithin n) (ih (d + 1)) hc v
    refine ⟨carriesNested_evaluateWithin (n + 1) c d v, fun p hp s => ?_,
      fun p hp s q hq hgrown t ht => ?_⟩
    · by_cases hroot : p.isRoot = true
      · simp only [evaluateWithin, hp.settings, if_pos hroot]
        exact hdispatch.grows p hp s.clear
      · simp only [evaluateWithin, hp.settings, if_neg hroot]
        exact hdispatch.grows p hp s
    · simp only [evaluateWithin, hp.settings, hq.settings] at hgrown ⊢
      by_cases hroot : p.isRoot = true
      · simp only [if_pos hroot] at hgrown ⊢
        have hforget := hgrown.forget_eq.trans (hdispatch.grows p hp s.clear).forget_eq
        have hroot' : q.isRoot = true := (congrArg Pattern.isRoot hforget).trans hroot
        obtain ⟨hanswer, hbindings, hlog⟩ := hdispatch.again p hp s.clear q hq hgrown t.clear rfl
        rw [if_pos hroot']
        refine ⟨hanswer, ?_, ?_⟩
        · simp only [hanswer]
          split_ifs
          · exact hbindings
          · rfl
        · dsimp only
          split_ifs
          · exact hlog
          · exact hlog
      · simp only [if_neg hroot] at hgrown ⊢
        have hforget := hgrown.forget_eq.trans (hdispatch.grows p hp s).forget_eq
        have hroot' : ¬q.isRoot = true := fun h =>
          hroot ((congrArg Pattern.isRoot hforget).symm.trans h)
        rw [if_neg hroot']
        exact hdispatch.again p hp s q hq hgrown t ht

/-- A root pattern does not look at the variables that were bound before. -/
theorem evaluate_clear (hroot : p.isRoot = true) (v : Value) (s : State) :
    p.evaluate v s.clear = p.evaluate v s := by
  simp only [evaluate, levels, evaluateWithin, if_pos hroot]
  rfl

/-- **Evaluating a root pattern once more** gives the same verdict, and nothing is read. -/
theorem evaluate_again (hp : p.IsAt c d) (hroot : p.isRoot = true)
    (hc : ∀ m ∈ c.chain.matchers, m.IsFrugal) (v : Value) (s : State) :
    let first := p.evaluate v s
    let again := first.2.1.evaluate v first.2.2
    again.1 = first.1 ∧ again.2.2.log = first.2.2.log := by
  intro first again
  have hreplays := replays_evaluateWithin hc p.levels d v
  have hp₁ : first.2.1.IsAt c d := hreplays.keeps p hp s
  have hroot₁ : first.2.1.isRoot = true :=
    (congrArg Pattern.isRoot (forget_evaluate p v s)).trans hroot
  -- Root patterns start without variables, so the two runs may as well start with the same ones.
  have hclear : p.evaluate v s.clear = first := evaluate_clear hroot v s
  have hclear' : again = evaluateWithin p.levels first.2.1 v first.2.2.clear := by
    change first.2.1.evaluate v first.2.2 = _
    rw [← evaluate_clear hroot₁, evaluate, levels, levels, hp₁.settings, hp₁.depth, hp.settings,
      hp.depth]
  have hgrown : Grows p.levels (p.evaluate v s.clear).2.1 first.2.1 := by
    rw [hclear]
    exact grows_refl _ _
  obtain ⟨hanswer, -, hlog⟩ := hreplays.again p hp s.clear _ hp₁ hgrown first.2.2.clear rfl
  rw [hclear']
  exact ⟨hanswer.trans (congrArg (·.1) hclear), hlog⟩

end Evaluating

end Pattern

end Sift
