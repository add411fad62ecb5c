import Sift.Proofs.Edits
import Sift.Proofs.Outlines

/-!
# Readings that are up to date

What a dialect keeps of a pattern is what it reads from the text under the settings, apart from what
its sub-patterns have read in their turn, and these are up to date as well (`Pattern.IsUpToDate`).
Matchers of the host may keep what they like, for as long as they like.

**Main result.** Every operation keeps patterns up to date: a change of the settings forgets what
was read, and everything else works on sub-patterns that keep their settings
(`Pattern.IsUpToDate.perform`).
-/

namespace Sift

/-- The operation changes no settings of sub-patterns, which are held by others as well. -/
def Operation.SparesParts : Operation → Prop
  | onPart _ _ o => o.IsShared
  | _ => True

theorem Operation.IsShared.sparesParts {o : Operation} (h : o.IsShared) : o.SparesParts := by
  cases o with
  | onPart k i o => exact h
  | _ => trivial

namespace Pattern

open Activity

/-! ## What is read just now -/

variable {p q : Pattern} {m : Matcher} {k : Kind} {r : Option (Reading Pattern)}

/-- Sub-patterns of what is read just now are derived from the pattern. -/
theorem exists_derive_of_mem_parts {r : Reading Pattern} (hr : m.read p = some r)
    (hq : q ∈ r.parts) : ∃ text, q = p.derive text := by
  have hkept := kept_read_of_derive (p := p) (R := fun q _ => ∃ text, q = p.derive text)
    (fun _ text => ⟨text, rfl⟩) m
  rw [hr] at hkept
  cases hkept with
  | some hlift =>
    obtain ⟨i, hi⟩ := Reading.mem_parts_iff.1 hq
    obtain ⟨-, -, hderive⟩ := hlift.part? hi
    exact hderive

/-- What is read just now has sub-patterns that have read nothing. -/
theorem map_forget_read (p : Pattern) (m : Matcher) :
    (m.read p).map (Reading.mapParts forget) = m.read p := by
  cases hr : m.read p with
  | none => rfl
  | some r =>
    refine congrArg some (Reading.mapParts_eq_self fun q hq => ?_)
    obtain ⟨text, rfl⟩ := exists_derive_of_mem_parts hr hq
    rfl

theorem read_eq_of_forget_eq (h : p.forget = q.forget) (m : Matcher) : m.read p = m.read q := by
  rw [← read_forget, h, read_forget]

/-! ## Patterns that are up to date -/

/-- What is kept for a dialect is what it reads from the text, sub-patterns apart, and the
sub-patterns are up to date as well. -/
inductive IsUpToDate : Pattern → Prop
  | intro {p : Pattern} :
      (∀ {d r}, p.cached? (.builtIn d) = some r → r.map (Reading.mapParts forget) = d.read p) →
      (∀ {d r q}, p.cached? (.builtIn d) = some (some r) → q ∈ r.parts → IsUpToDate q) →
      IsUpToDate p

/-- A reading under a kind, if it is the one of a dialect, is what the dialect reads from the
pattern, and its sub-patterns are up to date. -/
def ReadsAs (p : Pattern) (k : Kind) (r : Option (Reading Pattern)) : Prop :=
  ∀ d, k = .builtIn d →
    r.map (Reading.mapParts forget) = d.read p ∧ Reading.Each IsUpToDate r

theorem isUpToDate_of_cache_eq_nil (h : p.cache = []) : p.IsUpToDate := by
  have hnone : ∀ {k r}, p.cached? k ≠ some r := by simp [cached?, h]
  exact .intro (fun hr => absurd hr hnone) fun hr _ => absurd hr hnone

theorem Matcher.eq_builtIn_of_kind_eq {d : Dialect} (h : m.kind = .builtIn d) : m = .builtIn d := by
  cases m with
  | builtIn d' =>
    obtain rfl := Kind.builtIn.inj h
    rfl
  | added a => cases h

theorem readsAs_read (p : Pattern) (m : Matcher) : ReadsAs p m.kind (m.read p) := by
  intro d hd
  obtain rfl := Matcher.eq_builtIn_of_kind_eq hd
  refine ⟨map_forget_read p (.builtIn d), fun r hr q hq => ?_⟩
  obtain ⟨text, rfl⟩ := exists_derive_of_mem_parts hr hq
  exact isUpToDate_of_cache_eq_nil rfl

namespace IsUpToDate

theorem readsAs_of_cached (hp : p.IsUpToDate) (h : p.cached? k = some r) : ReadsAs p k r := by
  rintro d rfl
  obtain ⟨hread, hparts⟩ := hp
  refine ⟨hread h, ?_⟩
  rintro r' rfl q hq
  exact hparts h hq

theorem store (hp : p.IsUpToDate) (hr : ReadsAs p k r) : (p.store k r).IsUpToDate := by
  -- Storing changes the cache only, so all dialects read the same as before.
  have hentry : ∀ {d r'}, (p.store k r).cached? (.builtIn d) = some r' →
      r'.map (Reading.mapParts forget) = d.read p ∧ Reading.Each IsUpToDate r' := by
    intro d r' hr'
    rw [cached?_store] at hr'
    split_ifs at hr' with hk
    · obtain rfl := Option.some.inj hr'
      exact hr d hk.symm
    · exact hp.readsAs_of_cached hr' d rfl
  refine .intro (fun {d r'} hr' => ?_) fun {d r' q} hr' hq => (hentry hr').2 r' rfl q hq
  rw [(hentry hr').1]
  exact read_eq_of_forget_eq (q := p.store k r) rfl (.builtIn d)

theorem putBack (hp : p.IsUpToDate) (hr : ReadsAs p k r) : (p.putBack k r).IsUpToDate := by
  cases r with
  | none => exact hp
  | some r => exact hp.store hr

/-- What a dialect keeps without reading is what it would read. -/
theorem readsAs_kept (hp : p.IsUpToDate)
    (h : m.shouldRead (p.cached? m.kind).isNone ((p.cached? m.kind).bind id) p = false) :
    ReadsAs p m.kind ((p.cached? m.kind).bind id) := by
  cases hc : p.cached? m.kind with
  | some r => exact hp.readsAs_of_cached hc
  | none =>
    intro d hd
    obtain rfl := Matcher.eq_builtIn_of_kind_eq hd
    rw [hc] at h
    cases d with
    | anything | nullOrEmpty => exact ⟨rfl, Reading.each_none _⟩
    | _ => simp [Matcher.shouldRead, Dialect.shouldRead] at h

/-- **Reading** gives what is read from the text, whether it is read now or was kept. -/
theorem ensureRead (hp : p.IsUpToDate) (m : Matcher) (force : Bool) (s : State) :
    ReadsAs p m.kind (p.ensureRead m force s).1 ∧ (p.ensureRead m force s).2.1.IsUpToDate := by
  simp only [Pattern.ensureRead]
  split_ifs with h
  · exact ⟨readsAs_read p m, hp.store (readsAs_read p m)⟩
  · rw [Bool.or_eq_true, not_or, Bool.not_eq_true, Bool.not_eq_true] at h
    exact ⟨hp.readsAs_kept h.2, hp⟩

end IsUpToDate

/-! ## Evaluating -/

theorem ReadsAs.of_forget_eq (h : ReadsAs p k r) (hq : q.forget = p.forget) : ReadsAs q k r := by
  intro d hd
  obtain ⟨hread, hparts⟩ := h d hd
  exact ⟨hread.trans (read_eq_of_forget_eq hq.symm (.builtIn d)), hparts⟩

/-- An activity keeps something up; at depth zero there is nothing to say about the log. -/
theorem carries_zero {P α : Type} {D : P → Prop} {f : Activity P α}
    (h : ∀ p, D p → ∀ s, D (f p s).2.1) : Carries D 0 f := by
  have hlog : ∀ s : State, s.above 0 = [] := fun s => List.filter_eq_nil_iff.2 fun _ _ => by simp
  exact ⟨h, fun p _ s => by rw [hlog, hlog]⟩

variable {ev : Evaluator}

theorem ReadsAs.judge (h : ReadsAs p k r) (hkeeps : ∀ v, Carries IsUpToDate 0 fun p s => ev p v s)
    (hleaves : ∀ v, Leaves forget fun p s => ev p v s) (q : Pattern) (v : Value) (s : State)
    (m : Matcher) : ReadsAs p k (Pattern.judge ev q r v s m).2.1 := by
  intro d hd
  obtain ⟨hread, hparts⟩ := h d hd
  refine ⟨?_, (carries_judge hkeeps q v m).keeps r hparts s⟩
  exact (leaves_judge hleaves q v m r s).trans hread

theorem carries_upToDate_step (hkeeps : ∀ v, Carries IsUpToDate 0 fun p s => ev p v s)
    (hleaves : ∀ v, Leaves forget fun p s => ev p v s) (v : Value) (m : Matcher) :
    Carries IsUpToDate 0 (step ev v m) := by
  refine carries_zero fun p hp s => ?_
  obtain ⟨hr, hp₁⟩ := hp.ensureRead m false s
  have hr₁ := hr.of_forget_eq (forget_ensureRead p m false s)
  exact hp₁.putBack (hr₁.judge hkeeps hleaves _ v _ m)

/-- **Evaluating keeps patterns up to date.** -/
theorem carries_upToDate_evaluateWithin (n : Nat) (v : Value) :
    Carries IsUpToDate 0 fun p s => evaluateWithin n p v s := by
  induction n generalizing v with
  | zero => exact carries_answer Verdict.indeterminate
  | succ n ih =>
    have hleaves : ∀ v, Leaves forget fun p s => evaluateWithin n p v s :=
      fun v p s => forget_evaluateWithin n p v s
    exact carries_evaluateWithin_of (carries_upToDate_step ih hleaves) v

/-! ## Operations -/

namespace IsUpToDate

theorem readEach (hp : p.IsUpToDate) (ms : List Matcher) (force : Bool) (s : State) :
    (Pattern.readEach ms force (p, s)).1.IsUpToDate :=
  List.foldlRecOn (motive := fun x : Pattern × State => x.1.IsUpToDate) _ _ hp
    fun x hx m _ => (hx.ensureRead m force x.2).2

theorem readKind (hp : p.IsUpToDate) (k : Kind) (force : Bool) (s : State) :
    (p.readKind k force s).2.1.IsUpToDate := by
  unfold Pattern.readKind
  cases p.settings.chain.get? k with
  | none => exact hp
  | some m => exact (hp.ensureRead m force s).2

/-- What a matcher of the chain shows is what is read from the text. -/
theorem reading? (hp : p.IsUpToDate) (hk : k ∈ p.settings.chain.kinds) (s : State) :
    ReadsAs p k (p.reading? k s).1 ∧ (p.reading? k s).2.1.IsUpToDate := by
  obtain ⟨m, hm, rfl⟩ := List.mem_map.1 hk
  have hget : p.settings.chain.get? m.kind = some m := Chain.get?_eq_some_iff.2 ⟨hm, rfl⟩
  unfold Pattern.reading?
  rw [hget]
  exact hp.ensureRead m false s

end IsUpToDate

/-- Only matchers of the chain show anything. -/
theorem mem_kinds_of_reading?_eq_some {r : Reading Pattern} {s : State}
    (h : (p.reading? k s).1 = some r) : k ∈ p.settings.chain.kinds := by
  unfold Pattern.reading? at h
  cases hget : p.settings.chain.get? k with
  | none =>
    rw [hget] at h
    cases h
  | some m =>
    obtain ⟨hm, rfl⟩ := Chain.get?_eq_some_iff.1 hget
    exact List.mem_map_of_mem hm

namespace IsUpToDate

/-- Work on a sub-pattern keeps the pattern up to date if it does so for the sub-pattern, and leaves
it as it is but for its cache. -/
theorem onPart (hp : p.IsUpToDate) (k : Kind) (i : Nat)
    {f : Pattern → State → Answer × Pattern × State}
    (hkeeps : ∀ q, q.IsUpToDate → ∀ s, (f q s).2.1.IsUpToDate)
    (hleaves : ∀ q s, (f q s).2.1.forget = q.forget) (s : State) :
    (p.onPart k i f s).2.1.IsUpToDate := by
  have hp₁ : (p.reading? k s).2.1.IsUpToDate := by
    rw [snd_reading?]
    exact hp.readKind k false s
  rcases onPart_cases p k i f s with hnone | ⟨r, q, hr, hq, hpart⟩
  · rw [hnone]
    exact hp₁
  · have hk := mem_kinds_of_reading?_eq_some hr
    obtain ⟨hreads, -⟩ := hp.reading? hk s
    rw [hr] at hreads
    rw [hpart]
    refine hp₁.store (ReadsAs.of_forget_eq (p := p) (fun d hd => ?_) (forget_reading? p k s))
    obtain ⟨hread, hparts⟩ := hreads d hd
    refine ⟨?_, Reading.each_some.2 fun q' hq' => ?_⟩
    · rw [← hread]
      exact congrArg some (Reading.mapParts_setPart hq (hleaves q _))
    · rcases Reading.mem_parts_setPart hq' with rfl | hold
      · exact hkeeps q (hparts r rfl q (Reading.mem_parts_iff.2 ⟨i, hq⟩)) _
      · exact hparts r rfl q' hold

/-- **Every operation keeps patterns up to date.** -/
theorem perform (hp : p.IsUpToDate) {o : Operation} (ho : o.SparesParts) (s : State) :
    (o.perform p s).2.1.IsUpToDate := by
  induction o generalizing p s with
  | evaluate v | ask v => exact (carries_upToDate_evaluateWithin p.levels v).keeps p hp s
  | readAll force => exact hp.readEach p.settings.chain.matchers force s
  | readKind k force => exact hp.readKind k force s
  | reading k =>
    have hread : (p.readKind k false s).2.1.IsUpToDate := hp.readKind k false s
    rw [← snd_reading?] at hread
    exact hread
  | onPart k i o ih =>
    have hshared : o.IsShared := ho
    exact hp.onPart k i (fun q hq s => ih hq hshared.sparesParts s)
      (fun q s => o.forget_perform hshared q s) s
  | setMode _ | setIgnoreCase _ | insert _ | erase _ => exact isUpToDate_of_cache_eq_nil rfl
  | _ => exact hp

end IsUpToDate

end Pattern

end Sift
