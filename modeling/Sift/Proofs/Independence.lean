import Sift.Proofs.History
import Sift.Proofs.Logs

/-!
# Independent patterns

Patterns of a session are independent of each other unless one is derived from the other. A new
pattern and a fork get a scope that nobody else has, and they start with nothing read. So whatever
is done with the others in between shows neither in the answers of a pattern nor in what becomes of
it.

**Alone.** `Pattern.performAll` performs operations on one pattern with variables and a log of its
own, with no session around it. This is what a pattern of a session is compared with.

**The invariant.** A pattern that nothing has been derived from has its scope to itself
(`Session.Apart`). A step that works on other patterns keeps this and leaves the pattern and its
variables as they are. A step that works on the pattern does to it what it would do alone, since no
operation looks at the log, the one thing that is still shared (`Operation.ignoresLog_perform`).

**Main result.** From its creation on, a pattern answers and develops as if it were alone
(`answersOf_eq_performAll`).
-/

namespace Sift

/-- Performs operations on a pattern one after the other: the answers, and the pattern and the state
after them. -/
def Pattern.performAll (p : Pattern) (s : State) : List Operation → List Answer × Pattern × State
  | [] => ([], p, s)
  | o :: os =>
    let (answer, p, s) := o.perform p s
    let (answers, p, s) := p.performAll s os
    (answer :: answers, p, s)

namespace Session

variable {t : Session} {name name' : String} {m m' : Member} {step : Step} {o : Operation}

/-! ## The steps of one pattern -/

/-- The operation that a step performs on the pattern with a name. -/
def Step.operationOn? (name : String) : Step → Option Operation
  | .act name' o => if name' = name then some o else none
  | _ => none

/-- The operations that some steps perform on the pattern with a name, in order. -/
def operationsOn (name : String) (steps : List Step) : List Operation :=
  steps.filterMap (Step.operationOn? name)

/-- The answers to the operations on the pattern with a name, as a session takes some steps. -/
def answersOf (name : String) : Session → List Step → List Answer
  | _, [] => []
  | t, step :: steps =>
    match step.operationOn? name with
    | some _ => ((t.step? step).map (·.1)).toList ++ answersOf name (t.next step) steps
    | none => answersOf name (t.next step) steps

/-- The pattern that a step adds, and its name, if it is a new one or a fork. -/
def created? (t : Session) : Step → Option (String × Pattern)
  | .create name settings text => some (name, .root settings text)
  | .fork name source => (t.get? source).map fun m => (name, m.pattern.forget)
  | _ => none

/-- The step puts nothing else under the name, and derives nothing from the pattern that has it. -/
def Step.Spares (name : String) : Step → Prop
  | .create name' _ _ | .fork name' _ => name' ≠ name
  | .derive name' source _ => name' ≠ name ∧ source ≠ name
  | .act _ _ => True

theorem Step.operationOn?_eq_some (h : step.operationOn? name = some o) : step = .act name o := by
  cases step with
  | act name' o' =>
    simp only [operationOn?, Option.ite_none_right_eq_some, Option.some.injEq] at h
    obtain ⟨rfl, rfl⟩ := h
    rfl
  | _ => cases h

/-! ## Scopes -/

/-- The pattern with a name is there, and has its scope to itself. -/
structure Apart (t : Session) (name : String) (m : Member) : Prop where
  present : t.get? name = some m
  scope_lt : m.scope < t.scopes.length
  alone : ∀ name' m', t.get? name' = some m' → m'.scope = m.scope → name' = name

/-- A pattern that is put under another name, in another scope, leaves the pattern apart. -/
theorem Apart.put (h : t.Apart name m) (m' : Member) (hname : name' ≠ name)
    (hscope : m'.scope ≠ m.scope) {scopes : List Bindings} {log : List Parse}
    (hscopes : t.scopes.length ≤ scopes.length) :
    Apart { t.put name' m' with scopes, log } name m where
  present := by
    change (t.put name' m').get? name = some m
    rw [get?_put, if_neg hname.symm]
    exact h.present
  scope_lt := Nat.lt_of_lt_of_le h.scope_lt hscopes
  alone := by
    intro name'' m'' hm'' heq
    change (t.put name' m').get? name'' = some m'' at hm''
    rw [get?_put] at hm''
    split_ifs at hm''
    · obtain rfl := Option.some.inj hm''
      exact absurd heq hscope
    · exact h.alone name'' m'' hm'' heq

theorem bindings_put {scope : Nat} {scopes : List Bindings} {log : List Parse}
    (h : scopes[scope]? = t.scopes[scope]?) :
    bindings { t.put name' m' with scopes, log } scope = t.bindings scope := by
  simp only [bindings, h]

/-- A new pattern with a scope of its own leaves the others apart. -/
theorem Apart.add (h : t.Apart name m) (hname : name' ≠ name) (p : Pattern) :
    (t.add name' p).Apart name m ∧ (t.add name' p).bindings m.scope = t.bindings m.scope := by
  have hscope : (Member.mk p t.scopes.length).scope ≠ m.scope := Nat.ne_of_gt h.scope_lt
  exact ⟨h.put ⟨p, t.scopes.length⟩ hname hscope (by simp),
    bindings_put (List.getElem?_append_left h.scope_lt)⟩

/-- **A step on other patterns** leaves a pattern and its variables as they are. -/
theorem Apart.next_of_other (h : t.Apart name m) (hs : step.Spares name)
    (hother : step.operationOn? name = none) :
    (t.next step).Apart name m ∧ (t.next step).bindings m.scope = t.bindings m.scope := by
  cases step with
  | create name' settings text => exact h.add hs _
  | fork name' source =>
    cases hm : t.get? source with
    | none => simpa [Session.next, step?, hm] using h
    | some m' =>
      rw [next_fork hm]
      exact h.add hs m'.pattern.forget
  | derive name' source text =>
    cases hm : t.get? source with
    | none => simpa [Session.next, step?, hm] using h
    | some m' =>
      have hscope : m'.scope ≠ m.scope := fun heq => hs.2 (h.alone source m' hm heq)
      rw [next_derive hm]
      exact ⟨h.put ⟨m'.pattern.derive text, m'.scope⟩ hs.1 hscope
        (Nat.le_refl t.scopes.length), rfl⟩
  | act name' o =>
    have hname : name' ≠ name := by
      intro heq
      rw [Step.operationOn?, if_pos heq] at hother
      cases hother
    cases hm : t.get? name' with
    | none => simpa [Session.next, step?, hm] using h
    | some m' =>
      have hscope : m'.scope ≠ m.scope := fun heq => hname (h.alone name' m' hm heq)
      rw [next_act hm]
      exact ⟨h.put { m' with pattern := (o.perform m'.pattern _).2.1 } hname hscope
        (by rw [List.length_set]), bindings_put (List.getElem?_set_ne hscope)⟩

/-- **An operation on the pattern** does what it would do with the same variables and any log. -/
theorem Apart.next_of_own (h : t.Apart name m) {s : State}
    (hs : s.bindings = t.bindings m.scope) (o : Operation) :
    (t.step? (.act name o)).map (·.1) = some (o.perform m.pattern s).1 ∧
      (t.next (.act name o)).Apart name { m with pattern := (o.perform m.pattern s).2.1 } ∧
      (o.perform m.pattern s).2.2.bindings = (t.next (.act name o)).bindings m.scope := by
  obtain ⟨ha, hp, hb⟩ := o.ignoresLog_perform m.pattern s ⟨t.bindings m.scope, t.log⟩ hs
  rw [next_act h.present, ha, hp, hb]
  refine ⟨by simp [step?, h.present, act], ⟨?_, ?_, ?_⟩, ?_⟩
  · change (t.put name _).get? name = _
    rw [get?_put, if_pos rfl]
  · simpa [act] using h.scope_lt
  · intro name' m' hm' heq
    change (t.put name _).get? name' = some m' at hm'
    rw [get?_put] at hm'
    split_ifs at hm' with hname
    · exact hname
    · exact h.alone name' m' hm' heq
  · simp only [act, bindings]
    rw [List.getElem?_set_self h.scope_lt, Option.getD_some]

/-! ## Whole histories -/

/-- **Any steps** that spare a pattern are to it what its own operations are to it alone. -/
theorem Apart.answersOf_after {steps : List Step} (h : t.Apart name m)
    (hsteps : ∀ step ∈ steps, step.Spares name) {s : State}
    (hs : s.bindings = t.bindings m.scope) :
    ∃ m', (t.after steps).Apart name m' ∧
      answersOf name t steps = (m.pattern.performAll s (operationsOn name steps)).1 ∧
      m'.pattern = (m.pattern.performAll s (operationsOn name steps)).2.1 ∧
      (t.after steps).bindings m'.scope =
        (m.pattern.performAll s (operationsOn name steps)).2.2.bindings := by
  induction steps generalizing t m s with
  | nil => exact ⟨m, h, rfl, rfl, hs.symm⟩
  | cons step steps ih =>
    have hrest : ∀ step' ∈ steps, step'.Spares name :=
      fun step' hstep' => hsteps step' (List.mem_cons_of_mem step hstep')
    cases hown : step.operationOn? name with
    | none =>
      obtain ⟨hnext, hbindings⟩ := h.next_of_other (hsteps step List.mem_cons_self) hown
      have hgo := ih hnext hrest (hs.trans hbindings.symm)
      rw [operationsOn, List.filterMap_cons_none hown]
      simp only [answersOf, hown]
      exact hgo
    | some o =>
      obtain rfl := Step.operationOn?_eq_some hown
      obtain ⟨hanswer, hnext, hbindings⟩ := h.next_of_own hs o
      obtain ⟨m', hm', hanswers, hpattern, hvariables⟩ := ih hnext hrest hbindings
      refine ⟨m', hm', ?_, ?_, ?_⟩
      · simp only [answersOf, operationsOn, hown, List.filterMap_cons_some hown, hanswer, hanswers]
        rfl
      · simp only [operationsOn, List.filterMap_cons_some hown]
        exact hpattern
      · simp only [operationsOn, List.filterMap_cons_some hown]
        exact hvariables

/-- A new pattern and a fork have their scope to themselves, and no variables bound. -/
theorem apart_of_created (h : t.InScope) {p : Pattern} (hc : t.created? step = some (name, p)) :
    (t.next step).Apart name ⟨p, t.scopes.length⟩ ∧
      (t.next step).bindings t.scopes.length = [] := by
  have hadd : t.next step = t.add name p := by
    cases step with
    | create name' settings text =>
      obtain ⟨rfl, rfl⟩ := Prod.mk.inj (Option.some.inj hc)
      rfl
    | fork name' source =>
      obtain ⟨m, hm, heq⟩ := Option.map_eq_some_iff.1 hc
      obtain ⟨rfl, rfl⟩ := Prod.mk.inj heq
      simp [Session.next, step?, hm]
    | _ => cases hc
  rw [hadd]
  refine ⟨⟨?_, by simp [add], ?_⟩, by simp [add, bindings]⟩
  · change (t.put name _).get? name = _
    rw [get?_put, if_pos rfl]
  · intro name' m' hm' heq
    change (t.put name _).get? name' = some m' at hm'
    rw [get?_put] at hm'
    split_ifs at hm' with hname
    · exact hname
    · exact absurd heq (Nat.ne_of_lt (h name' m' hm'))

/-- **Independent patterns do not interfere.** Let a pattern be created in a session, as a new one
or as a fork, and let any steps follow that put nothing else under its name and derive nothing from
it. Then its answers, all that is known of it in the end, and its variables are what they are if its
own operations are performed alone, in their order. -/
theorem answersOf_eq_performAll (made steps : List Step) {c : Step} {name : String} {p : Pattern}
    (hc : (empty.after made).created? c = some (name, p))
    (hsteps : ∀ step ∈ steps, step.Spares name) :
    let t := (empty.after made).next c
    let alone := p.performAll ⟨[], []⟩ (operationsOn name steps)
    ∃ m, (t.after steps).get? name = some m ∧
      answersOf name t steps = alone.1 ∧ m.pattern = alone.2.1 ∧
      (t.after steps).bindings m.scope = alone.2.2.bindings := by
  obtain ⟨hapart, hnone⟩ := apart_of_created (inScope_after made) hc
  obtain ⟨m, hm, hanswers, hpattern, hvariables⟩ :=
    hapart.answersOf_after hsteps (s := ⟨[], []⟩) hnone.symm
  exact ⟨m, hm.present, hanswers, hpattern, hvariables⟩

/-- A pattern with a variable that is bound. -/
def sampleMade : List Step :=
  [.create "whole" .standard "a:$x b:$x".toList, .act "whole" (.bind "x" (.bool true))]

/-- The pattern and two forks, working in turns, and a pattern derived from the last fork. -/
def sampleTurns : List Step :=
  [.act "fork" (.evaluate (.map [("a", .null), ("b", .null)])),
    .act "whole" (.setMode .inclusive),
    .fork "other" "fork",
    .act "fork" (.binding "x"),
    .act "other" (.erase (.builtIn .capture)),
    .derive "part" "other" "b:$x".toList,
    .act "part" (.bind "x" (.bool false)),
    .act "fork" (.setIgnoreCase false),
    .act "whole" (.evaluate .null),
    .act "fork" (.evaluate (.map [("a", .null), ("b", .bool true)]))]

theorem answersOf_sampleTurns :
    ((empty.after sampleMade).created? (.fork "fork" "whole") =
        some ("fork", .ofText "a:$x b:$x") ∧
      ∀ step ∈ sampleTurns, step.Spares "fork") ∧
    let t := (empty.after sampleMade).next (.fork "fork" "whole")
    let alone := (Pattern.ofText "a:$x b:$x").performAll ⟨[], []⟩ (operationsOn "fork" sampleTurns)
    ∃ m, (t.after sampleTurns).get? "fork" = some m ∧
      answersOf "fork" t sampleTurns = alone.1 ∧ m.pattern = alone.2.1 ∧
      (t.after sampleTurns).bindings m.scope = alone.2.2.bindings := by
  have hsteps : ∀ step ∈ sampleTurns, step.Spares "fork" := by
    simp [sampleTurns, Step.Spares]
  have hc : (empty.after sampleMade).created? (.fork "fork" "whole") =
      some ("fork", .ofText "a:$x b:$x") := rfl
  exact ⟨⟨hc, hsteps⟩, answersOf_eq_performAll sampleMade sampleTurns hc hsteps⟩

end Session

end Sift
