import Sift.Proofs.Operations

/-!
# Activities on patterns

Evaluating a pattern works on caches and on the log in passing. Here this work is put together from
small *activities*: what is done with a pattern, a list of patterns or a reading, and with the
state. Sub-patterns are asked one after the other as long as they match (`Activity.allOf`), and the
matchers of a chain take their steps as long as no verdict is there (`Pattern.step`). What is put
together has any property that is handed on by the few ways of putting together
(`Activity.Compositional`).

**Main result.** Activities that are made of well-behaved ones are well-behaved: they keep up what
holds of the things they work on, and log nothing about patterns that are less deep than given
(`Activity.Carries`). So judging by a reading is well-behaved if evaluating its sub-patterns is
(`Pattern.carries_judge`), and evaluating is if each step of a matcher is
(`Pattern.carries_evaluateWithin_of`).
-/

namespace Sift

/-! ## Activities -/

/-- Something that works on a thing and on the state, and gives an answer. -/
abbrev Activity (P α : Type) := P → State → α × P × State

namespace Activity

variable {P α β : Type}

/-- Gives an answer and does nothing. -/
def answer (a : α) : Activity P α := fun p s => (a, p, s)

/-- One activity after the other, which may depend on the answer of the first. -/
def andThen (f : Activity P α) (g : α → Activity P β) : Activity P β := fun p s =>
  g (f p s).1 (f p s).2.1 (f p s).2.2

/-- Works on the things of a list, each in the way of its place, up to the first that says no or to
a place without a way. -/
def allOf : (Nat → Option (Activity P Bool)) → Activity (List P) Bool
  | _, [], s => (true, [], s)
  | fs, p :: ps, s =>
    match fs 0 with
    | none => (true, p :: ps, s)
    | some f =>
      if (f p s).1 then
        let rest := allOf (fun i => fs (i + 1)) ps (f p s).2.2
        (rest.1, (f p s).2.1 :: rest.2.1, rest.2.2)
      else (false, (f p s).2.1 :: ps, (f p s).2.2)

/-- Works on lists of one length, and says no to all others. -/
def ofLength (n : Nat) (f : Activity (List P) Bool) : Activity (List P) Bool := fun ps s =>
  if n = ps.length then f ps s else (false, ps, s)

end Activity

namespace Pattern

variable {ev : Evaluator}

/-- Asks whether a pattern matches a value. -/
def matching (ev : Evaluator) (v : Value) : Activity Pattern Bool := fun p s =>
  ((ev p v s).1 = .isMatch, (ev p v s).2.1, (ev p v s).2.2)

theorem matchSome_cons (ev : Evaluator) (v : Value) (vs : List Value) :
    (fun p s => matchSome ev p (v :: vs) s) = (matching ev v).andThen fun matched =>
      if matched then .answer true else fun p s => matchSome ev p vs s := by
  funext p s
  by_cases h : (ev p v s).1 = .isMatch
  · simp [matchSome, matching, Activity.andThen, Activity.answer, h]
  · simp [matchSome, matching, Activity.andThen, h]

theorem matchEach_eq (vs : List Value) : (fun ps s => matchEach ev ps vs s) =
    Activity.allOf fun i => vs[i]?.map (matching ev) := by
  funext ps s
  induction ps generalizing vs s with
  | nil => cases vs <;> rfl
  | cons p ps ih =>
    cases vs with
    | nil => rfl
    | cons v vs =>
      by_cases h : (ev p v s).1 = .isMatch
      · simp [matchEach, Activity.allOf, matching, h, ih]
      · simp [matchEach, Activity.allOf, matching, h]

theorem matchAll_eq (v : Value) :
    matchAll ev v = Activity.allOf fun _ => some (matching ev v) := by
  funext ps s
  induction ps generalizing s with
  | nil => rfl
  | cons p ps ih =>
    by_cases h : (ev p v s).1 = .isMatch
    · simp [matchAll, Activity.allOf, matching, h, ih]
    · simp [matchAll, Activity.allOf, matching, h]

theorem matchAllSome_eq (vs : List Value) :
    matchAllSome ev vs = Activity.allOf fun _ => some fun p s => matchSome ev p vs s := by
  funext ps s
  induction ps generalizing s with
  | nil => rfl
  | cons p ps ih =>
    by_cases h : (matchSome ev p vs s).1 = true
    · simp [matchAllSome, Activity.allOf, h, ih]
    · simp [matchAllSome, Activity.allOf, h]

/-- Asks some patterns about the elements of a list, in either mode. -/
def matchList (ev : Evaluator) (mode : Mode) (vs : List Value) : Activity (List Pattern) Bool :=
  fun ps s =>
    match mode with
    | .exact => if vs.length = ps.length then matchEach ev ps vs s else (false, ps, s)
    | .inclusive => matchAllSome ev vs ps s

/-- What becomes of a reading and of the state when a value is judged: the reading and the log are
left alone, or the sub-patterns are evaluated. -/
inductive Judged (ev : Evaluator) :
    Option (Reading Pattern) × State → Option (Reading Pattern) × State → Prop
  | left (r : Option (Reading Pattern)) {s s' : State} : s'.log = s.log → Judged ev (r, s) (r, s')
  | negation (v : Value) (q : Pattern) (s : State) :
      Judged ev (some (.negation q), s) (some (.negation (ev q v s).2.1), (ev q v s).2.2)
  | list (mode : Mode) (vs : List Value) (qs : List Pattern) (s : State) :
      Judged ev (some (.list qs), s)
        (some (.list (matchList ev mode vs qs s).2.1), (matchList ev mode vs qs s).2.2)
  | fields (v : Value) (qs : List Pattern) (s : State) :
      Judged ev (some (.fields qs), s)
        (some (.fields (matchAll ev v qs s).2.1), (matchAll ev v qs s).2.2)
  | property (names : List String) (v : Value) (q : Pattern) (s : State) :
      Judged ev (some (.property names q), s)
        (some (.property names (ev q v s).2.1), (ev q v s).2.2)

/-- **What a judgement can do** with a reading, whatever the matcher. -/
theorem judged (ev : Evaluator) (p : Pattern) (r : Option (Reading Pattern)) (v : Value) (s : State)
    (m : Matcher) : Judged ev (r, s) (judge ev p r v s m).2 := by
  cases m with
  | added a => exact .left r rfl
  | builtIn dialect =>
    cases r with
    | none => cases dialect <;> exact .left none rfl
    | some r =>
      cases dialect with
      | anything | nullOrEmpty | glob | comparison | range | regex => exact .left _ rfl
      | capture => cases r with
        | _ => exact .left _ rfl
      | negation => cases r with
        | negation q => exact .negation v q s
        | _ => exact .left _ rfl
      | list => cases r with
        | list qs => cases v with
          | list vs => exact .list p.settings.mode vs qs s
          | _ => exact .left _ rfl
        | _ => exact .left _ rfl
      | multiField => cases r with
        | fields qs => exact .fields v qs s
        | _ => exact .left _ rfl
      | property => cases r with
        | property names q =>
          by_cases hnull : v.isNull = true
          · simp only [judge, judgeDialect, judgeProperty, if_pos hnull]
            exact .left _ rfl
          · simp only [judge, judgeDialect, judgeProperty, if_neg hnull]
            exact .property names (v.path names) q s
        | _ => exact .left _ rfl

/-- A matcher reads if need be, and judges; its reading is put back. -/
def step (ev : Evaluator) (v : Value) (m : Matcher) : Activity Pattern Verdict := fun p s =>
  let (reading, p, s) := p.ensureRead m false s
  let (verdict, reading, s) := judge ev p reading v s m
  (verdict, p.putBack m.kind reading, s)

theorem dispatch_cons_eq (ev : Evaluator) (m : Matcher) (ms : List Matcher) (v : Value) :
    (fun p s => dispatch ev (m :: ms) p v s) = (step ev v m).andThen fun verdict =>
      if verdict.isDeterminate then .answer verdict else fun p s => dispatch ev ms p v s := by
  funext p s
  by_cases h : (step ev v m p s).1.isDeterminate = true
  · simp only [Activity.andThen, if_pos h]
    exact if_pos h
  · simp only [Activity.andThen, if_neg h]
    exact if_neg h

end Pattern

/-! ## What holds of pieces -/

namespace Activity

/-- A property of activities on patterns, and one of activities on lists of patterns, that hold of
what is put together if they hold of the pieces. -/
structure Compositional (C : ∀ {α : Type}, Activity Pattern α → Prop)
    (C' : Activity (List Pattern) Bool → Prop) : Prop where
  answer {α : Type} (a : α) : C (answer a)
  andThen {α β : Type} {f : Activity Pattern α} {g : α → Activity Pattern β} :
    C f → (∀ a, C (g a)) → C (f.andThen g)
  allOf {fs : Nat → Option (Activity Pattern Bool)} :
    (∀ i f, fs i = some f → C f) → C' (allOf fs)
  ofLength {f : Activity (List Pattern) Bool} (n : Nat) : C' f → C' (f.ofLength n)

namespace Compositional

open Pattern

variable {C : ∀ {α : Type}, Activity Pattern α → Prop} {C' : Activity (List Pattern) Bool → Prop}
variable {ev : Evaluator}

theorem matching (hC : Compositional C C') {v : Value} (h : C fun p s => ev p v s) :
    C (Pattern.matching ev v) :=
  hC.andThen h fun verdict => hC.answer (decide (verdict = .isMatch))

theorem matchSome (hC : Compositional C C') (h : ∀ v, C fun p s => ev p v s) (vs : List Value) :
    C fun p s => Pattern.matchSome ev p vs s := by
  induction vs with
  | nil => exact hC.answer false
  | cons v vs ih =>
    rw [matchSome_cons]
    refine hC.andThen (hC.matching (h v)) fun matched => ?_
    cases matched with
    | true => exact hC.answer true
    | false => exact ih

theorem matchAll (hC : Compositional C C') (h : ∀ v, C fun p s => ev p v s) (v : Value) :
    C' (Pattern.matchAll ev v) := by
  rw [matchAll_eq]
  exact hC.allOf fun _ f hf => Option.some.inj hf ▸ hC.matching (h v)

/-- **Matching lists** is put together from evaluating patterns, in either mode. -/
theorem matchList (hC : Compositional C C') (h : ∀ v, C fun p s => ev p v s) (mode : Mode)
    (vs : List Value) : C' (Pattern.matchList ev mode vs) := by
  cases mode with
  | inclusive =>
    change C' (matchAllSome ev vs)
    rw [matchAllSome_eq]
    exact hC.allOf fun _ f hf => Option.some.inj hf ▸ hC.matchSome h vs
  | exact =>
    change C' (Activity.ofLength vs.length fun ps s => matchEach ev ps vs s)
    rw [matchEach_eq]
    refine hC.ofLength _ (hC.allOf fun i f hf => ?_)
    obtain ⟨v, -, rfl⟩ := Option.map_eq_some_iff.1 hf
    exact hC.matching (h v)

/-- **Asking a chain** is put together from the steps of its matchers. -/
theorem dispatch (hC : Compositional C C') {v : Value} {ms : List Matcher}
    (h : ∀ m ∈ ms, C (step ev v m)) : C fun p s => Pattern.dispatch ev ms p v s := by
  induction ms with
  | nil => exact hC.answer Verdict.indeterminate
  | cons m ms ih =>
    obtain ⟨hm, hms⟩ := List.forall_mem_cons.1 h
    rw [dispatch_cons_eq]
    refine hC.andThen hm fun verdict => ?_
    cases verdict.isDeterminate with
    | true => exact hC.answer verdict
    | false => exact ih hms

end Compositional

end Activity

/-! ## Sub-patterns -/

namespace Reading

variable {P : Type}

/-- The sub-patterns of a reading. -/
def parts : Reading P → List P
  | negation q | property _ q => [q]
  | list qs | fields qs => qs
  | _ => []

theorem mem_parts_iff {r : Reading P} {q : P} : q ∈ r.parts ↔ ∃ i, r.part? i = some q := by
  cases r with
  | negation _ | property _ _ => simp [parts, part?, eq_comm]
  | list _ | fields _ => exact List.mem_iff_getElem?
  | _ => simp [parts, part?]

theorem mem_parts_setPart {r : Reading P} {i : Nat} {q q' : P}
    (h : q' ∈ (r.setPart i q).parts) : q' = q ∨ q' ∈ r.parts := by
  cases r with
  | negation _ | property _ _ => exact .inl (List.mem_singleton.1 h)
  | list _ | fields _ => exact (List.mem_or_eq_of_mem_set h).symm
  | _ => cases h

/-- Something holds of all sub-patterns of what is kept. -/
def Each (D : P → Prop) (r : Option (Reading P)) : Prop := ∀ r', r = some r' → ∀ q ∈ r'.parts, D q

theorem each_none (D : P → Prop) : Each D none := nofun

theorem each_some {D : P → Prop} {r : Reading P} : Each D (some r) ↔ ∀ q ∈ r.parts, D q :=
  ⟨fun h => h r rfl, fun h _ hr => Option.some.inj hr ▸ h⟩

end Reading

/-! ## Well-behaved activities -/

/-- The entries of the log about patterns that are less deep than given. -/
def State.above (s : State) (depth : Nat) : List Parse := s.log.filter (·.depth < depth)

theorem State.above_eq_of_le {s s' : State} {d d' : Nat} (h : s.above d' = s'.above d')
    (hd : d ≤ d') : s.above d = s'.above d := by
  have hfilter : ∀ s : State, s.above d = (s.above d').filter (·.depth < d) := by
    intro s
    rw [above, above, List.filter_filter]
    refine List.filter_congr fun e _ => ?_
    rw [Bool.eq_iff_iff, Bool.and_eq_true, decide_eq_true_eq, decide_eq_true_eq]
    omega
  rw [hfilter s, h, ← hfilter s']

namespace Activity

variable {P α β : Type} {D : P → Prop} {d : Nat}

/-- The activity keeps up what holds of the thing, and logs nothing about patterns that are
less deep than given. -/
structure Carries (D : P → Prop) (d : Nat) (f : Activity P α) : Prop where
  keeps : ∀ p, D p → ∀ s, D (f p s).2.1
  above_eq : ∀ p, D p → ∀ s, (f p s).2.2.above d = s.above d

theorem carries_of {f : Activity P α}
    (h : ∀ p, D p → ∀ s, D (f p s).2.1 ∧ (f p s).2.2.above d = s.above d) : Carries D d f :=
  ⟨fun p hp s => (h p hp s).1, fun p hp s => (h p hp s).2⟩

theorem carries_answer (a : α) : Carries D d (answer a) := ⟨fun _ hp _ => hp, fun _ _ _ => rfl⟩

theorem Carries.andThen {f : Activity P α} {g : α → Activity P β} (hf : Carries D d f)
    (hg : ∀ a, Carries D d (g a)) : Carries D d (f.andThen g) := by
  refine ⟨fun p hp s => (hg _).keeps _ (hf.keeps p hp s) _, fun p hp s => ?_⟩
  exact ((hg _).above_eq _ (hf.keeps p hp s) _).trans (hf.above_eq p hp s)

theorem carries_allOf {fs : Nat → Option (Activity P Bool)}
    (h : ∀ i f, fs i = some f → Carries D d f) :
    Carries (fun ps => ∀ p ∈ ps, D p) d (allOf fs) := by
  refine carries_of fun ps => ?_
  induction ps generalizing fs with
  | nil => exact fun hps s => ⟨hps, rfl⟩
  | cons p ps ih =>
    intro hps s
    cases hf : fs 0 with
    | none =>
      simp only [allOf, hf]
      exact ⟨hps, trivial⟩
    | some f =>
      obtain ⟨hp, hps⟩ := List.forall_mem_cons.1 hps
      have hkeeps := (h 0 f hf).keeps p hp s
      have hlog := (h 0 f hf).above_eq p hp s
      by_cases hyes : (f p s).1 = true
      · obtain ⟨hrest, hlog'⟩ := ih (fun i => h (i + 1)) hps (f p s).2.2
        simp only [allOf, hf, if_pos hyes]
        exact ⟨List.forall_mem_cons.2 ⟨hkeeps, hrest⟩, hlog'.trans hlog⟩
      · simp only [allOf, hf, if_neg hyes]
        exact ⟨List.forall_mem_cons.2 ⟨hkeeps, hps⟩, hlog⟩

end Activity

namespace Pattern

open Activity

variable {ev : Evaluator} {D : Pattern → Prop} {d : Nat}

theorem compositional_carries (D : Pattern → Prop) (d : Nat) :
    Compositional (Carries D d) (Carries (fun ps => ∀ p ∈ ps, D p) d) where
  answer := carries_answer
  andThen := Carries.andThen
  allOf := carries_allOf
  ofLength n hf := by
    refine carries_of fun ps hps s => ?_
    simp only [ofLength]
    split_ifs
    · exact ⟨hf.keeps ps hps s, hf.above_eq ps hps s⟩
    · exact ⟨hps, rfl⟩

/-- **Judging works on the sub-patterns of a reading only.** -/
theorem carries_judge (h : ∀ v, Carries D d fun p s => ev p v s) (p : Pattern) (v : Value)
    (m : Matcher) : Carries (Reading.Each D) d fun r s => judge ev p r v s m := by
  refine carries_of fun r hr s => ?_
  have hjudged := judged ev p r v s m
  generalize judge ev p r v s m = x at hjudged ⊢
  obtain ⟨verdict, r', s'⟩ := x
  cases hjudged with
  | left _ hlog => exact ⟨hr, congrArg (List.filter _) hlog⟩
  | negation u q | property _ u q =>
    have hq := Reading.each_some.1 hr q (List.mem_singleton_self q)
    exact ⟨Reading.each_some.2 (List.forall_mem_singleton.2 ((h u).keeps q hq s)),
      (h u).above_eq q hq s⟩
  | list mode vs qs =>
    have hqs := Reading.each_some.1 hr
    have hlist := (compositional_carries D d).matchList h mode vs
    exact ⟨Reading.each_some.2 (hlist.keeps qs hqs s), hlist.above_eq qs hqs s⟩
  | fields u qs =>
    have hqs := Reading.each_some.1 hr
    have hall := (compositional_carries D d).matchAll h u
    exact ⟨Reading.each_some.2 (hall.keeps qs hqs s), hall.above_eq qs hqs s⟩

/-! ## One level of evaluation -/

/-- **Evaluating keeps up what each step of a matcher keeps up.** -/
theorem carries_evaluateWithin_of {n : Nat}
    (h : ∀ v m, Carries D d (step (evaluateWithin n) v m)) (v : Value) :
    Carries D d fun p s => evaluateWithin (n + 1) p v s := by
  have hdispatch : ∀ ms, Carries D d fun p s => dispatch (evaluateWithin n) ms p v s :=
    fun _ => (compositional_carries D d).dispatch fun m _ => h v m
  constructor
  · intro p hp s
    have hkeeps := fun s => (hdispatch p.settings.chain.matchers).keeps p hp s
    by_cases hroot : p.isRoot = true
    · simp only [evaluateWithin, if_pos hroot]
      exact hkeeps s.clear
    · simp only [evaluateWithin, if_neg hroot]
      exact hkeeps s
  · intro p hp s
    have hlog := fun s => (hdispatch p.settings.chain.matchers).above_eq p hp s
    by_cases hroot : p.isRoot = true
    · simp only [evaluateWithin, if_pos hroot]
      split_ifs
      · exact hlog s.clear
      · exact hlog s.clear
    · simp only [evaluateWithin, if_neg hroot]
      exact hlog s

end Pattern

end Sift
