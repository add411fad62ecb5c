import Sift.Proofs.Edits
import Sift.Proofs.Independence
import Sift.Proofs.Replays

/-!
# Reading is amortised

A matcher that reads first reads a pattern once, when it is first asked to, and then again whenever
it is forced to. That it has read is kept even if there was nothing to read.

**Requests.** An operation asks a matcher to read by force, or only if it has not read yet, or not
at all (`Operation.request`). Evaluating asks the matchers in turn, so a matcher is asked only if
those in front of it leave the question open (`Pattern.reaches`).

**Tallies.** What a piece of work adds to the log about the pattern itself and one matcher, and
whether there is an entry of the matcher afterwards, follow from the request and from whether
there was an entry before (`Tally`). Work on sub-patterns adds nothing.

**Main result.** Whatever has been done with a pattern since it was new, a matcher that reads first
reads as often as the next request says, and evaluating a root pattern twice in a row reads nothing
the second time (`Pattern.amortised`).
-/

namespace Sift

/-! ## Requests -/

/-- What is asked of a matcher. -/
inductive Request where
  | nothing
  /-- To read unless it has read before. -/
  | unforced
  /-- To read, whatever was before. -/
  | forced
  deriving DecidableEq

namespace Request

/-- A request to read, by force or not. -/
def ofForce (force : Bool) : Request := if force then forced else unforced

/-- How often a matcher reads that follows a request, given whether it has read before. -/
def readings : Request → Bool → Nat
  | nothing, _ => 0
  | unforced, before => if before then 0 else 1
  | forced, _ => 1

/-- Whether anything is asked. -/
def asks (r : Request) : Bool := r ≠ nothing

end Request

/-- The matchers in front of a kind. -/
def Chain.before (c : Chain) (k : Kind) : List Matcher := c.matchers.takeWhile (·.kind ≠ k)

/-- Evaluating the pattern gets as far as the matcher of a kind: those in front of it leave the
question open. -/
def Pattern.reaches (p : Pattern) (k : Kind) (v : Value) (s : State) : Bool :=
  let s := if p.isRoot then s.clear else s
  !(dispatch (evaluateWithin (p.settings.depthLimit - p.depth)) (p.settings.chain.before k)
    p v s).1.isDeterminate

/-- What an operation on a pattern asks of the matcher of a kind. -/
def Operation.request (k : Kind) (p : Pattern) (s : State) : Operation → Request
  | evaluate v | ask v => if p.reaches k v s then .unforced else .nothing
  | readAll force => .ofForce force
  | readKind k' force => if k' = k then .ofForce force else .nothing
  | reading k' | onPart k' _ _ => if k' = k then .unforced else .nothing
  | _ => .nothing

/-- How often matchers of a kind have read patterns at a depth. -/
def State.reads (s : State) (k : Kind) (depth : Nat) : Nat :=
  s.log.countP fun e => e.kind = k ∧ e.depth = depth

/-- How often a matcher has read shows in what was logged down to that depth. -/
theorem State.reads_eq_of_above_eq {s s' : State} {k : Kind} {d : Nat}
    (h : s.above (d + 1) = s'.above (d + 1)) : s.reads k d = s'.reads k d := by
  have hcount : ∀ s : State,
      s.reads k d = (s.above (d + 1)).countP fun e => e.kind = k ∧ e.depth = d := by
    intro s
    rw [reads, above, List.countP_filter]
    refine List.countP_congr fun e _ => ?_
    simp only [decide_eq_true_eq, Bool.and_eq_true]
    exact ⟨fun he => ⟨he, Nat.lt_succ_of_le he.2.le⟩, And.left⟩
  rw [hcount, h, ← hcount]

/-! ## Tallies -/

/-- Work that follows a request to the matcher of a kind: it reads as often as the request says, and
has an entry afterwards if it was asked or had one before. -/
structure Tally (k : Kind) (d : Nat) (r : Request) (x y : Pattern × State) : Prop where
  reads : y.2.reads k d = x.2.reads k d + r.readings (x.1.cached? k).isSome
  entry : (y.1.cached? k).isSome = (r.asks || (x.1.cached? k).isSome)

namespace Tally

variable {k : Kind} {d : Nat} {r : Request} {x y z : Pattern × State}

theorem refl (k : Kind) (d : Nat) (x : Pattern × State) : Tally k d .nothing x x := ⟨rfl, rfl⟩

/-- Work that nobody was asked for may go before. -/
theorem after (hyz : Tally k d r y z) (hxy : Tally k d .nothing x y) : Tally k d r x z := by
  have hentry : (y.1.cached? k).isSome = (x.1.cached? k).isSome := hxy.entry
  refine ⟨?_, ?_⟩
  · rw [hyz.reads, hxy.reads, hentry]
    rfl
  · rw [hyz.entry, hentry]

/-- Work that nobody was asked for may follow. -/
theorem trans (hxy : Tally k d r x y) (hyz : Tally k d .nothing y z) : Tally k d r x z :=
  ⟨hyz.reads.trans hxy.reads, hyz.entry.trans hxy.entry⟩

end Tally

namespace Chain

/-- A matcher of a chain stands behind those in front of its kind, and those behind it are of other
kinds. -/
theorem matchers_eq_before {c : Chain} {m : Matcher} (hm : m ∈ c.matchers) :
    (∀ n ∈ c.before m.kind, n.kind ≠ m.kind) ∧
      ∃ behind, c.matchers = c.before m.kind ++ m :: behind ∧ ∀ n ∈ behind, n.kind ≠ m.kind := by
  obtain ⟨i, hi⟩ := List.mem_iff_getElem?.1 hm
  obtain ⟨front, n, behind, hsplit, -, hkind, hfront, hbehind⟩ :=
    split_of_position? (position?_eq_some_iff.2 ⟨m, hi, rfl⟩)
  have hn : n ∈ c.matchers := by simp [hsplit]
  obtain rfl := eq_of_kind_eq hn hm hkind
  have hbefore : c.before n.kind = front := by
    rw [before, hsplit, List.takeWhile_append_of_pos (by simpa using hfront)]
    simp
  rw [hbefore]
  exact ⟨hfront, behind, hsplit, hbehind⟩

end Chain

namespace Pattern

open Activity

variable {ev : Evaluator} {c : Settings} {d : Nat} {k : Kind} {p : Pattern} {m : Matcher}

/-! ## Matchers -/

theorem tally_ensureRead_of_ne (hk : m.kind ≠ k) (force : Bool) (s : State) :
    Tally k d .nothing (p, s) (p.ensureRead m force s).2 := by
  simp only [ensureRead]
  split_ifs
  · refine ⟨?_, ?_⟩
    · exact List.countP_cons_of_neg (by simp [hk])
    · exact congrArg Option.isSome ((cached?_store p m.kind k _).trans (if_neg (Ne.symm hk)))
  · exact .refl k d _

/-- **A matcher that reads first follows requests.** -/
theorem tally_ensureRead (hm : m.ReadsFirst) (hp : p.depth = d) (force : Bool) (s : State) :
    Tally m.kind d (.ofForce force) (p, s) (p.ensureRead m force s).2 := by
  -- A reading that takes place is logged, and there is an entry of it.
  have hread : (s.logged p m).reads m.kind d = s.reads m.kind d + 1 ∧
      (p.store m.kind (m.read p)).cached? m.kind = some (m.read p) := by
    refine ⟨?_, (cached?_store p m.kind m.kind _).trans (if_pos rfl)⟩
    exact List.countP_cons_of_pos (by simp [hp])
  obtain ⟨hreads, hentry⟩ := hread
  cases force with
  | true =>
    rw [ensureRead_force]
    exact ⟨hreads, congrArg Option.isSome hentry⟩
  | false =>
    cases hold : p.cached? m.kind with
    | none =>
      rw [ensureRead_of_cached?_eq_none hm hold]
      refine ⟨?_, congrArg Option.isSome hentry⟩
      rw [hold]
      exact hreads
    | some r =>
      rw [ensureRead_of_cached?_eq_some hm hold]
      refine ⟨?_, ?_⟩
      · rw [hold]
        rfl
      · rw [hold]
        rfl

/-- Storing adds no entry if there is one already, and work on sub-patterns shows in neither. -/
theorem tally_store {k' : Kind} (hk : k' = k → (p.cached? k).isSome = true)
    (r : Option (Reading Pattern)) {s s' : State} (hs : s'.above (d + 1) = s.above (d + 1)) :
    Tally k d .nothing (p, s) (p.store k' r, s') := by
  refine ⟨State.reads_eq_of_above_eq hs, ?_⟩
  simp only [cached?_store]
  by_cases hsame : k = k'
  · rw [if_pos hsame, hk hsame.symm]
    rfl
  · rw [if_neg hsame]
    rfl

theorem tally_judge (hev : CarriesNested ev) {k' : Kind} (hk : k' = k → (p.cached? k).isSome = true)
    {r : Option (Reading Pattern)} (hr : Reading.Each (IsAt c (d + 1)) r) (q : Pattern) (v : Value)
    (s : State) (m : Matcher) :
    Tally k d .nothing (p, s)
      (p.putBack k' (judge ev q r v s m).2.1, (judge ev q r v s m).2.2) := by
  have hs := (carries_judge (hev c (d + 1)) q v m).above_eq r hr s
  cases (judge ev q r v s m).2.1 with
  | none => exact ⟨State.reads_eq_of_above_eq hs, rfl⟩
  | some r' => exact tally_store hk (some r') hs

theorem tally_step_of_ne (hev : CarriesNested ev) (hp : p.IsAt c d) (hk : m.kind ≠ k) (v : Value)
    (s : State) : Tally k d .nothing (p, s) (step ev v m p s).2 := by
  obtain ⟨hr, -, -⟩ := hp.ensureRead m false s
  exact (tally_ensureRead_of_ne hk false s).trans
    (tally_judge hev (fun h => absurd h hk) hr _ v _ m)

theorem tally_step (hev : CarriesNested ev) (hp : p.IsAt c d) (hm : m.ReadsFirst) (v : Value)
    (s : State) : Tally m.kind d .unforced (p, s) (step ev v m p s).2 := by
  obtain ⟨hr, -, -⟩ := hp.ensureRead m false s
  have hread := tally_ensureRead hm hp.depth false s
  exact hread.trans (tally_judge hev (fun _ => hread.entry) hr _ v _ m)

/-! ## Chains -/

theorem tally_dispatch_of_ne (hev : CarriesNested ev) (hp : p.IsAt c d) {ms : List Matcher}
    (hms : ∀ n ∈ ms, n.kind ≠ k) (v : Value) (s : State) :
    Tally k d .nothing (p, s) (dispatch ev ms p v s).2 := by
  induction ms generalizing p s with
  | nil => exact .refl k d _
  | cons n ms ih =>
    obtain ⟨hn, hms⟩ := List.forall_mem_cons.1 hms
    have hstep := tally_step_of_ne hev hp hn v s
    rw [congrFun (congrFun (dispatch_cons_eq ev n ms v) p) s]
    simp only [Activity.andThen]
    split_ifs
    · exact hstep
    · exact (ih ((carries_step hev v n).keeps p hp s) hms _).after hstep

/-- **A chain asks a matcher if those in front of it leave the question open.** -/
theorem tally_dispatch (hev : CarriesNested ev) (hp : p.IsAt c d) (hm : m ∈ c.chain.matchers)
    (hfirst : m.ReadsFirst) (v : Value) (s : State) :
    Tally m.kind d
      (if (dispatch ev (c.chain.before m.kind) p v s).1.isDeterminate then .nothing else .unforced)
      (p, s) (dispatch ev c.chain.matchers p v s).2 := by
  obtain ⟨hfront, behind, hsplit, hbehind⟩ := Chain.matchers_eq_before hm
  have hbefore := tally_dispatch_of_ne hev hp hfront v s
  have hp₁ := (carries_dispatch hev (c.chain.before m.kind) v).keeps p hp s
  rw [hsplit, dispatch_append, orAsk]
  generalize dispatch ev (c.chain.before m.kind) p v s = x at hbefore hp₁ ⊢
  obtain ⟨verdict, p₁, s₁⟩ := x
  by_cases hopen : verdict.isDeterminate = true
  · simp only [if_pos hopen]
    exact hbefore
  · simp only [if_neg hopen]
    have hstep := (tally_step hev hp₁ hfirst v s₁).after hbefore
    have hp₂ := (carries_step hev v m).keeps p₁ hp₁ s₁
    rw [congrFun (congrFun (dispatch_cons_eq ev m behind v) p₁) s₁]
    simp only [Activity.andThen]
    split_ifs
    · exact hstep
    · exact hstep.trans (tally_dispatch_of_ne hev hp₂ hbehind v _)

theorem tally_evaluate (hp : p.IsAt c d) (hm : m ∈ c.chain.matchers) (hfirst : m.ReadsFirst)
    (v : Value) (s : State) :
    Tally m.kind d (if p.reaches m.kind v s then .unforced else .nothing) (p, s)
      (p.evaluate v s).2 := by
  have hdispatch := tally_dispatch (carriesNested_evaluateWithin (c.depthLimit - d)) hp hm hfirst v
  simp only [evaluate, levels, evaluateWithin, reaches, hp.settings, hp.depth, Bool.not_eq_true',
    ← Bool.not_eq_true, ite_not]
  by_cases hroot : p.isRoot = true
  · simp only [if_pos hroot]
    obtain ⟨hreads, hentry⟩ := hdispatch s.clear
    refine ⟨Eq.trans ?_ hreads, hentry⟩
    split_ifs
    · rfl
    · rfl
  · simp only [if_neg hroot]
    exact hdispatch s

/-! ## Reading on request -/

theorem tally_readEach_of_ne {ms : List Matcher} (hms : ∀ n ∈ ms, n.kind ≠ k) (force : Bool)
    (x : Pattern × State) : Tally k d .nothing x (readEach ms force x) := by
  induction ms generalizing x with
  | nil => exact .refl k d x
  | cons n ms ih =>
    obtain ⟨hn, hms⟩ := List.forall_mem_cons.1 hms
    exact (ih hms _).after (tally_ensureRead_of_ne hn force x.2)

theorem tally_readAll (hp : p.IsAt c d) (hm : m ∈ c.chain.matchers) (hfirst : m.ReadsFirst)
    (force : Bool) (s : State) : Tally m.kind d (.ofForce force) (p, s) (p.readAll force s) := by
  obtain ⟨hfront, behind, hsplit, hbehind⟩ := Chain.matchers_eq_before hm
  have hbefore := tally_readEach_of_ne (d := d) hfront force (p, s)
  obtain ⟨hp₁, -⟩ := hp.readEach (c.chain.before m.kind) force s
  have hread := tally_ensureRead hfirst hp₁.depth force
    (readEach (c.chain.before m.kind) force (p, s)).2
  rw [readAll_eq, hp.settings, hsplit, readEach, List.foldl_append, List.foldl_cons]
  exact (hread.after hbefore).trans (tally_readEach_of_ne hbehind force _)

/-- A request to the matcher of one kind is none to the others. -/
theorem tally_readKind (hp : p.IsAt c d) (hm : m ∈ c.chain.matchers) (hfirst : m.ReadsFirst)
    (k : Kind) (force : Bool) (s : State) :
    Tally m.kind d (if k = m.kind then .ofForce force else .nothing) (p, s)
      (p.readKind k force s).2 := by
  simp only [readKind, hp.settings]
  by_cases hk : k = m.kind
  · rw [if_pos hk, Chain.get?_eq_some_iff.2 ⟨hm, hk.symm⟩]
    exact tally_ensureRead hfirst hp.depth force s
  · rw [if_neg hk]
    cases hget : c.chain.get? k with
    | none => exact .refl _ d _
    | some n =>
      have hn : n.kind ≠ m.kind := (Chain.get?_eq_some_iff.1 hget).2 ▸ hk
      exact tally_ensureRead_of_ne hn force s

theorem tally_reading? (hp : p.IsAt c d) (hm : m ∈ c.chain.matchers) (hfirst : m.ReadsFirst)
    (k : Kind) (s : State) :
    Tally m.kind d (if k = m.kind then .unforced else .nothing) (p, s) (p.reading? k s).2 := by
  rw [snd_reading?]
  exact tally_readKind hp hm hfirst k false s

/-- Work on a sub-pattern asks for the reading that holds it. -/
theorem tally_onPart (hp : p.IsAt c d) (hm : m ∈ c.chain.matchers) (hfirst : m.ReadsFirst)
    (k : Kind) (i : Nat) {f : Pattern → State → Answer × Pattern × State}
    (hf : Carries (IsAt c (d + 1)) (d + 1) f) (s : State) :
    Tally m.kind d (if k = m.kind then .unforced else .nothing) (p, s) (p.onPart k i f s).2 := by
  have hread := tally_reading? hp hm hfirst k s
  rcases onPart_cases p k i f s with hnone | ⟨r, q, hr, hq, hpart⟩
  · rw [hnone]
    exact hread
  · have hq := (hp.reading? k s).1 r hr q (Reading.mem_parts_iff.2 ⟨i, hq⟩)
    have hentry : k = m.kind → ((p.reading? k s).2.1.cached? m.kind).isSome = true := by
      intro hk
      rw [if_pos hk] at hread
      exact hread.entry
    rw [hpart]
    exact hread.trans (tally_store hentry _ (hf.above_eq q hq _))

end Pattern

/-! ## Operations -/

open Pattern

/-- **Every operation that changes no settings follows its request.** -/
theorem Operation.tally_perform {c : Settings} {d : Nat} {p : Pattern} {m : Matcher} {o : Operation}
    (ho : o.IsShared) (hp : p.IsAt c d) (hm : m ∈ c.chain.matchers) (hfirst : m.ReadsFirst)
    (s : State) : Tally m.kind d (o.request m.kind p s) (p, s) (o.perform p s).2 := by
  cases o with
  | evaluate v | ask v => exact tally_evaluate hp hm hfirst v s
  | readAll force => exact tally_readAll hp hm hfirst force s
  | readKind k force => exact tally_readKind hp hm hfirst k force s
  | reading k => exact tally_reading? hp hm hfirst k s
  | onPart k i o => exact tally_onPart hp hm hfirst k i (carries_perform (o := o) ho c (d + 1)) s
  | setMode _ | setIgnoreCase _ | insert _ | erase _ => exact ho.elim
  | bind name v => exact ⟨rfl, rfl⟩
  | _ => exact .refl _ d _

/-- There is an entry of a kind if and only if a matcher of the kind has read since the pattern was
new. -/
structure Counted (k : Kind) (d : Nat) (start : State) (x : Pattern × State) : Prop where
  le : start.reads k d ≤ x.2.reads k d
  entry : (x.1.cached? k).isSome = decide (start.reads k d < x.2.reads k d)

theorem Counted.step {k : Kind} {d : Nat} {r : Request} {start : State} {x y : Pattern × State}
    (hx : Counted k d start x) (hxy : Tally k d r x y) : Counted k d start y := by
  have hle := hx.le
  have hreads := hxy.reads
  refine ⟨by omega, ?_⟩
  rw [hxy.entry, hreads, hx.entry]
  cases r with
  | nothing => rfl
  | forced =>
    have hmore : start.reads k d < x.2.reads k d + 1 := by omega
    simp [Request.asks, Request.readings, hmore]
  | unforced =>
    by_cases hmore : start.reads k d < x.2.reads k d
    · simp [Request.asks, Request.readings, hmore]
    · have hsame : start.reads k d = x.2.reads k d := by omega
      simp [Request.asks, Request.readings, hsame]

namespace Pattern

variable {c : Settings} {d : Nat} {p : Pattern} {os : List Operation}

theorem forget_performAll (hos : ∀ o ∈ os, o.IsShared) (p : Pattern) (s : State) :
    (p.performAll s os).2.1.forget = p.forget := by
  induction os generalizing p s with
  | nil => rfl
  | cons o os ih =>
    obtain ⟨ho, hos⟩ := List.forall_mem_cons.1 hos
    exact (ih hos _ _).trans (o.forget_perform ho p s)

theorem IsAt.performAll (hp : p.IsAt c d) (hos : ∀ o ∈ os, o.IsShared) (s : State) :
    (p.performAll s os).2.1.IsAt c d := by
  induction os generalizing p s with
  | nil => exact hp
  | cons o os ih =>
    obtain ⟨ho, hos⟩ := List.forall_mem_cons.1 hos
    exact ih ((o.carries_perform ho c d).keeps p hp s) hos _

/-- **What was read since a pattern was new shows in its cache.** -/
theorem counted_performAll {m : Matcher} {start : State} (hp : p.IsAt c d)
    (hm : m ∈ c.chain.matchers) (hfirst : m.ReadsFirst) (hos : ∀ o ∈ os, o.IsShared) {s : State}
    (hs : Counted m.kind d start (p, s)) :
    Counted m.kind d start (p.performAll s os).2 := by
  induction os generalizing p s with
  | nil => exact hs
  | cons o os ih =>
    obtain ⟨ho, hos⟩ := List.forall_mem_cons.1 hos
    exact ih ((o.carries_perform ho c d).keeps p hp s) hos
      (hs.step (o.tally_perform ho hp hm hfirst s))

/-- **Reading is amortised.** Whatever has been done with a pattern that was new, short of changing
its settings:

* the next operation has a matcher that reads first read once if it forces the matcher to, once if
  it asks the matcher to and nothing has had it read before, and not at all otherwise;
* a root pattern that evaluates a value twice in a row, with all matchers frugal, reads nothing the
  second time, and neither do its sub-patterns. -/
theorem amortised (hnew : p.cache = []) (hos : ∀ o ∈ os, o.IsShared) (start : State) :
    let q := (p.performAll start os).2.1
    let s := (p.performAll start os).2.2
    (∀ m ∈ p.settings.chain.matchers, m.ReadsFirst → ∀ o : Operation, o.IsShared →
      (o.perform q s).2.2.reads m.kind p.depth = s.reads m.kind p.depth +
        (o.request m.kind q s).readings (start.reads m.kind p.depth < s.reads m.kind p.depth)) ∧
    (p.isRoot = true → (∀ m ∈ p.settings.chain.matchers, m.IsFrugal) → ∀ v : Value,
      let first := (q.evaluate v s).2
      (first.1.evaluate v first.2).2.2.log = first.2.log) := by
  intro q s
  have hp : p.IsAt p.settings p.depth := ⟨rfl, rfl, isNested_of_cache_eq_nil hnew⟩
  have hq : q.IsAt p.settings p.depth := hp.performAll hos start
  refine ⟨fun m hm hfirst o ho => ?_, fun hroot hfrugal v => ?_⟩
  · have hstart : Counted m.kind p.depth start (p, start) :=
      ⟨Nat.le_refl _, by simp [cached?, hnew]⟩
    have hcounted := counted_performAll hp hm hfirst hos hstart
    rw [← hcounted.entry]
    exact (o.tally_perform ho hq hm hfirst s).reads
  · have hroot' : q.isRoot = true :=
      (congrArg Pattern.isRoot (forget_performAll hos p start)).trans hroot
    exact (evaluate_again hq hroot' hfrugal v s).2

/-- A comparison. It is no negation, and nobody gets to ask whether it is a list. -/
def sampleComparison : Pattern := ofText "=1"

/-- Asks whether two is one. -/
def askTwo : Operation := .ask (.number (.ofNat 2))

theorem amortised_sampleComparison :
    let x := (sampleComparison.performAll ⟨[], []⟩ [askTwo]).2
    let y := (x.1.evaluate (.number (.ofNat 2)) x.2).2
    (sampleComparison.cache = [] ∧ (∀ o ∈ [askTwo], o.IsShared) ∧
      sampleComparison.isRoot = true ∧
      (∀ m ∈ sampleComparison.settings.chain.matchers, m.IsFrugal) ∧
      (x.1.cached? (.builtIn .negation)).map Option.isNone = some true ∧
      x.2.reads (.builtIn .negation) 0 = 1 ∧ x.2.reads (.builtIn .list) 0 = 0) ∧
    (askTwo.perform x.1 x.2).2.2.reads (.builtIn .negation) 0 = 1 ∧
    ((Operation.readAll true).perform x.1 x.2).2.2.reads (.builtIn .negation) 0 = 2 ∧
    (askTwo.perform x.1 x.2).2.2.reads (.builtIn .list) 0 = 0 ∧
    ((Operation.readAll false).perform x.1 x.2).2.2.reads (.builtIn .list) 0 = 1 ∧
    (y.1.evaluate (.number (.ofNat 2)) y.2).2.2.log = y.2.log := by
  have hshared : ∀ o ∈ [askTwo], o.IsShared := by simp [askTwo, Operation.IsShared]
  have hmem : ∀ d : Dialect, Matcher.builtIn d ∈ sampleComparison.settings.chain.matchers := by
    intro d
    exact List.mem_map_of_mem (by cases d <;> decide)
  have hfrugal : ∀ m ∈ sampleComparison.settings.chain.matchers, m.IsFrugal := by
    intro m hm
    obtain ⟨d, -, rfl⟩ := List.mem_map.1 hm
    exact Matcher.isFrugal_builtIn d
  obtain ⟨hreads, hagain⟩ := amortised (p := sampleComparison) rfl hshared ⟨[], []⟩
  have hknown : ((sampleComparison.performAll ⟨[], []⟩ [askTwo]).2.1.cached?
        (.builtIn .negation)).map Option.isNone = some true ∧
      (sampleComparison.performAll ⟨[], []⟩ [askTwo]).2.2.reads (.builtIn .negation) 0 = 1 ∧
      (sampleComparison.performAll ⟨[], []⟩ [askTwo]).2.2.reads (.builtIn .list) 0 = 0 ∧
      (sampleComparison.performAll ⟨[], []⟩ [askTwo]).2.1.reaches (.builtIn .negation)
        (.number (.ofNat 2)) (sampleComparison.performAll ⟨[], []⟩ [askTwo]).2.2 = true ∧
      (sampleComparison.performAll ⟨[], []⟩ [askTwo]).2.1.reaches (.builtIn .list)
        (.number (.ofNat 2)) (sampleComparison.performAll ⟨[], []⟩ [askTwo]).2.2 = false := by
    decide +kernel
  generalize sampleComparison.performAll ⟨[], []⟩ [askTwo] = x at hknown hreads hagain ⊢
  obtain ⟨hempty, hnegation, hlist, hreaches, hreaches'⟩ := hknown
  have hcount : ∀ d n, (Matcher.builtIn d).ReadsFirst → x.2.2.reads (.builtIn d) 0 = n →
      ∀ o : Operation, o.IsShared → (o.perform x.2.1 x.2.2).2.2.reads (.builtIn d) 0 =
        n + (o.request (.builtIn d) x.2.1 x.2.2).readings (0 < n) := by
    intro d n hd hn
    obtain rfl := hn
    exact hreads (.builtIn d) (hmem d) hd
  -- The negation was read, in vain; the list was not.
  have hnegations :=
    hcount .negation 1 (Matcher.readsFirst_builtIn (by decide) (by decide)) hnegation
  have hlists := hcount .list 0 (Matcher.readsFirst_builtIn (by decide) (by decide)) hlist
  refine ⟨⟨rfl, hshared, rfl, hfrugal, hempty, hnegation, hlist⟩, ?_,
    hnegations (.readAll true) trivial, ?_, hlists (.readAll false) trivial, hagain rfl hfrugal _⟩
  · rw [hnegations askTwo trivial, askTwo, Operation.request, if_pos hreaches]
    rfl
  · rw [hlists askTwo trivial, askTwo, Operation.request, hreaches', if_neg Bool.false_ne_true]
    rfl

end Pattern

end Sift
