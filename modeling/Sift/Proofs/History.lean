import Mathlib.Logic.Function.Basic
import Sift.Pattern.Session
import Sift.Proofs.Nested

/-!
# Histories of a session

Whatever has been done to the patterns of a session, their caches are coherent. So what a pattern
has been through shows only in its settings, and a root pattern judges the next value as a new
pattern with these settings would, starting with no variables.

**Plans.** What a history makes of the texts and settings is computed without evaluating anything:
a `Session.Plan` holds patterns that have read nothing, and judging, reading and binding leave it
alone.

**Main result.** After any history of regular matchers, a root pattern gives the verdict and the
variables of `Pattern.fresh` for the pattern that is planned (`evaluate_after_eq_fresh`).
-/

namespace Sift

namespace Session

/-! ## Plans -/

/-- Patterns that have read nothing, under names. -/
abbrev Plan := String → Option Pattern

/-- The plan without patterns. -/
def Plan.empty : Plan := fun _ => none

/-- The plan with a pattern under a name, if there is one to put there. -/
def Plan.put (f : Plan) (name : String) : Option Pattern → Plan
  | some p => Function.update f name (some p)
  | none => f

/-- What a step plans. -/
def Plan.step (f : Plan) : Step → Plan
  | .create name settings text => f.put name (some (.root settings text))
  | .fork name source => f.put name (f source)
  | .derive name source text => f.put name ((f source).map (·.derive text))
  | .act name o => f.put name ((f name).map o.reconfigure)

/-- What a history plans. -/
def planned (steps : List Step) : Plan := steps.foldl Plan.step .empty

/-- The session after one step; a step that lacks a pattern changes nothing. -/
def next (t : Session) (step : Step) : Session := ((t.step? step).map (·.2)).getD t

/-- The session after some steps. -/
def after (t : Session) (steps : List Step) : Session := steps.foldl next t

/-- The step brings no matcher into a chain but a regular one. -/
def Step.IsRegular : Step → Prop
  | .create _ settings _ => settings.chain.IsRegular
  | .act _ o => o.IsRegular
  | _ => True

/-- The patterns of a session are the planned ones but for their caches, which are coherent, and
have scopes of the session. -/
structure Follows (t : Session) (f : Plan) : Prop where
  plan : ∀ name, (t.get? name).map (·.pattern.forget) = f name
  coherent : ∀ {name m}, t.get? name = some m → m.pattern.Coherent m.pattern.levels
  scope_lt : ∀ {name m}, t.get? name = some m → m.scope < t.scopes.length

variable {t : Session} {f : Plan} {name : String} {m : Member}

theorem get?_put (t : Session) (name name' : String) (m : Member) :
    (t.put name m).get? name' = if name' = name then some m else t.get? name' :=
  lookup_cons_filter_ne name name' m t.members

theorem next_fork {source : String} (h : t.get? source = some m) :
    t.next (.fork name source) = t.add name m.pattern.forget := by
  simp [next, step?, h]

theorem next_derive {source : String} {text : List Char} (h : t.get? source = some m) :
    t.next (.derive name source text) = t.put name ⟨m.pattern.derive text, m.scope⟩ := by
  simp [next, step?, h]

theorem next_act {o : Operation} (h : t.get? name = some m) :
    t.next (.act name o) = (t.act name m o).2 := by
  simp [next, step?, h]

/-! ## Scopes -/

/-- Every pattern has a scope of the session. -/
def InScope (t : Session) : Prop := ∀ name m, t.get? name = some m → m.scope < t.scopes.length

theorem InScope.put (h : t.InScope) {scopes : List Bindings} {log : List Parse}
    (hscopes : t.scopes.length ≤ scopes.length) (hscope : m.scope < scopes.length) :
    InScope { t.put name m with scopes, log } := by
  intro name' m' hm'
  change (t.put name m).get? name' = some m' at hm'
  rw [get?_put] at hm'
  split_ifs at hm'
  · obtain rfl := Option.some.inj hm'
    exact hscope
  · exact Nat.lt_of_lt_of_le (h name' m' hm') hscopes

theorem InScope.add (h : t.InScope) (name : String) (p : Pattern) : (t.add name p).InScope :=
  h.put (m := ⟨p, t.scopes.length⟩) (by simp) (by simp)

theorem InScope.next (h : t.InScope) (step : Step) : (t.next step).InScope := by
  cases step with
  | create name settings text => exact h.add name _
  | fork name source =>
    cases hm : t.get? source with
    | none => simpa [Session.next, step?, hm] using h
    | some m =>
      rw [next_fork hm]
      exact h.add name m.pattern.forget
  | derive name source text =>
    cases hm : t.get? source with
    | none => simpa [Session.next, step?, hm] using h
    | some m =>
      rw [next_derive hm]
      exact h.put (m := ⟨m.pattern.derive text, m.scope⟩) (Nat.le_refl t.scopes.length)
        (h source m hm)
  | act name o =>
    cases hm : t.get? name with
    | none => simpa [Session.next, step?, hm] using h
    | some m =>
      rw [next_act hm]
      have hscope : m.scope < t.scopes.length := h name m hm
      exact h.put (by rw [List.length_set]) (by rwa [List.length_set])

theorem inScope_after (steps : List Step) : (empty.after steps).InScope := by
  suffices h : ∀ t : Session, t.InScope → (t.after steps).InScope by
    apply h
    intro name m hm
    cases hm
  induction steps with
  | nil => exact fun _ h => h
  | cons step steps ih => exact fun t h => ih _ (h.next step)

/-! ## What steps keep up -/

/-- The patterns of a session are the planned ones but for their caches, and something holds of each
of them. -/
structure Tracks (I : Pattern → Prop) (t : Session) (f : Plan) : Prop where
  plan : ∀ name, (t.get? name).map (·.pattern.forget) = f name
  each : ∀ {name m}, t.get? name = some m → I m.pattern

/-- The step keeps up what holds of patterns. -/
def Step.Keeps (I : Pattern → Prop) : Step → Prop
  | .create _ settings text => I (.root settings text)
  | .fork _ _ => ∀ p, I p → I p.forget
  | .derive _ _ text => ∀ p, I p → I (p.derive text)
  | .act _ o => ∀ p, I p → ∀ s, I (o.perform p s).2.1

namespace Tracks

variable {I : Pattern → Prop}

theorem empty (I : Pattern → Prop) : Tracks I Session.empty Plan.empty where
  plan _ := rfl
  each h := by simp [Session.empty, get?] at h

/-- A planned pattern put under its name. -/
theorem put (h : Tracks I t f) (hm : I m.pattern) {scopes : List Bindings} {log : List Parse} :
    Tracks I { t.put name m with scopes, log } (f.put name (some m.pattern.forget)) where
  plan name' := by
    change ((t.put name m).get? name').map _ = Function.update f name _ name'
    rw [get?_put, Function.update_apply]
    split_ifs
    · rfl
    · exact h.plan name'
  each {name' m'} hm' := by
    change (t.put name m).get? name' = some m' at hm'
    rw [get?_put] at hm'
    split_ifs at hm'
    · obtain rfl := Option.some.inj hm'
      exact hm
    · exact h.each hm'

/-- What the plan holds under the name of a pattern of the session. -/
theorem plan_eq (h : Tracks I t f) (hm : t.get? name = some m) :
    f name = some m.pattern.forget := by
  rw [← h.plan, hm, Option.map_some]

theorem plan_eq_none (h : Tracks I t f) (hm : t.get? name = none) : f name = none := by
  rw [← h.plan, hm, Option.map_none]

/-- **One step of a session** keeps to the plan, and keeps up what it keeps up of patterns. -/
theorem next (h : Tracks I t f) {step : Step} (hs : step.Keeps I) :
    Tracks I (t.next step) (f.step step) := by
  cases step with
  | create name settings text => exact h.put (m := ⟨.root settings text, t.scopes.length⟩) hs
  | fork name source =>
    cases hm : t.get? source with
    | none => simpa [Session.next, step?, Plan.step, Plan.put, hm, h.plan_eq_none hm] using h
    | some m =>
      rw [next_fork hm, Plan.step, h.plan_eq hm]
      exact h.put (m := ⟨m.pattern.forget, t.scopes.length⟩) (hs m.pattern (h.each hm))
  | derive name source text =>
    cases hm : t.get? source with
    | none => simpa [Session.next, step?, Plan.step, Plan.put, hm, h.plan_eq_none hm] using h
    | some m =>
      rw [next_derive hm, Plan.step, h.plan_eq hm]
      exact h.put (m := ⟨m.pattern.derive text, m.scope⟩) (hs m.pattern (h.each hm))
  | act name o =>
    cases hm : t.get? name with
    | none => simpa [Session.next, step?, Plan.step, Plan.put, hm, h.plan_eq_none hm] using h
    | some m =>
      let x := o.perform m.pattern ⟨t.bindings m.scope, t.log⟩
      have hx : x.2.1.forget = o.reconfigure m.pattern.forget := o.forget_perform_eq _ _
      rw [next_act hm, Plan.step, h.plan_eq hm, Option.map_some, ← hx]
      exact h.put (m := ⟨x.2.1, m.scope⟩) (hs m.pattern (h.each hm) _)

end Tracks

/-- **A history keeps to the plan**, and keeps up what its steps keep up of patterns. -/
theorem tracks_after {I : Pattern → Prop} (steps : List Step) (hs : ∀ step ∈ steps, step.Keeps I) :
    Tracks I (empty.after steps) (planned steps) := by
  suffices h : ∀ (t : Session) (f : Plan), Tracks I t f →
      Tracks I (t.after steps) (steps.foldl Plan.step f) from h empty .empty (.empty I)
  induction steps with
  | nil => exact fun _ _ h => h
  | cons step steps ih =>
    intro t f h
    exact ih (fun s hs' => hs s (List.mem_cons_of_mem step hs')) _ _
      (h.next (hs step List.mem_cons_self))

/-! ## Coherent caches -/

/-- Regular steps keep caches coherent. -/
theorem Step.IsRegular.keeps {step : Step} (h : step.IsRegular) :
    step.Keeps fun p => p.Coherent p.levels := by
  cases step with
  | create name settings text =>
    exact Pattern.coherent_of_cache_eq_nil (p := .root settings text) h rfl _
  | fork name source =>
    exact fun p hp => Pattern.coherent_of_cache_eq_nil (p := p.forget) hp.isRegular rfl _
  | derive name source text => exact fun p hp => (Pattern.agrees_derive hp.isRegular _ text).2
  | act name o =>
    intro p hp s
    have hagrees := hp.perform h s
    rw [hagrees.levels_eq, Pattern.levels_reconfigure]
    exact hagrees.2

theorem follows_after (steps : List Step) (hs : ∀ step ∈ steps, step.IsRegular) :
    Follows (empty.after steps) (planned steps) :=
  have h := tracks_after steps fun step hstep => (hs step hstep).keeps
  ⟨h.plan, h.each, inScope_after steps _ _⟩

/-- **Caching is invisible.** Whatever has been done in a session before, evaluating a root pattern
gives the verdict that fresh judgement gives for the planned pattern from no variables, and leaves
the variables of fresh judgement in the scope of the pattern. -/
theorem evaluate_after_eq_fresh (steps : List Step) (hs : ∀ step ∈ steps, step.IsRegular)
    {name : String} {q : Pattern} (hq : planned steps name = some q) (root : q.isRoot = true)
    (v : Value) :
    ∃ m t', (empty.after steps).get? name = some m ∧
      (empty.after steps).step? (.act name (.evaluate v)) =
        some (.verdict (q.fresh v []).1, t') ∧
      t'.bindings m.scope = (q.fresh v []).2 := by
  have h := follows_after steps hs
  generalize empty.after steps = t at h
  rw [← h.plan, Option.map_eq_some_iff] at hq
  obtain ⟨m, hm, rfl⟩ := hq
  obtain ⟨hv, hb, -⟩ :=
    Pattern.evaluate_of_coherent (h.coherent hm) v ⟨t.bindings m.scope, t.log⟩
  rw [Pattern.fresh_of_isRoot root] at hv hb
  refine ⟨m, (t.act name m (.evaluate v)).2, hm, ?_, ?_⟩
  · simp [step?, hm, act, Operation.perform, hv]
  · simp only [act, Operation.perform, bindings]
    rw [List.getElem?_set_self (h.scope_lt hm)]
    exact hb

/-- A matcher that reads the length of the text, once, and compares values with it. -/
def sampleLength : DataMatcher where
  name := "length"
  label := 1
  shape := .any
  read view := some (.number (.ofNat view.text.length))
  isOwn data := Shape.number.admits data
  isOwn_of_read := by
    rintro view data ⟨⟩
    rfl
  judge v data _ := .matchOrDefer (v.equals data)

/-- The matcher as a matcher of the host. -/
def sampleAdded : Added := sampleLength.toAdded

/-- A pattern that judges, gets one more matcher, shares a variable with a derived pattern, reads
ahead of time, lends one of its groups and changes its mode. -/
def sampleHistory : List Step :=
  [.create "whole" .standard "a:$x b:$x".toList,
    .act "whole" (.evaluate (.map [("a", .bool true), ("b", .bool false)])),
    .act "whole" (.insert (.added sampleAdded)),
    .derive "part" "whole" "b:$x".toList,
    .act "part" (.evaluate (.map [("b", .null)])),
    .act "whole" (.readAll true),
    .act "whole" (.onPart (.builtIn .multiField) 1 (.evaluate (.map [("b", .bool true)]))),
    .act "whole" (.setMode .inclusive)]

/-- The planned pattern of the sample history. -/
def samplePattern : Pattern :=
  ((Pattern.ofText "a:$x b:$x").insert (.added sampleAdded)).setMode .inclusive

theorem evaluate_after_sampleHistory :
    ((∀ step ∈ sampleHistory, step.IsRegular) ∧ planned sampleHistory "whole" = some samplePattern ∧
      samplePattern.isRoot = true) ∧
    ∃ m t', (empty.after sampleHistory).get? "whole" = some m ∧
      (empty.after sampleHistory).step? (.act "whole" (.evaluate .null)) =
        some (.verdict (samplePattern.fresh .null []).1, t') ∧
      t'.bindings m.scope = (samplePattern.fresh .null []).2 := by
  have hs : ∀ step ∈ sampleHistory, step.IsRegular := by
    have hadded : (Matcher.added sampleAdded).IsRegular :=
      DataMatcher.isRegular (m := sampleLength) fun _ => rfl
    simpa [sampleHistory, Step.IsRegular, Operation.IsRegular, Operation.IsShared,
      Matcher.IsRegular, Chain.IsRegular, Settings.standard, Chain.standard] using hadded
  have hq : planned sampleHistory "whole" = some samplePattern := rfl
  exact ⟨⟨hs, hq, rfl⟩, evaluate_after_eq_fresh sampleHistory hs hq rfl .null⟩

end Session

end Sift
