import Sift.Proofs.Operations

/-!
# Caches that grow

A matcher that *reads first* reads a pattern that it has never read, and from then on only if it is
forced to (`Matcher.ReadsFirst`). So the cache of a pattern grows as the pattern is evaluated, and
with it the caches of the sub-patterns in it.

**Main result.** A pattern grows into what reading and putting back leave of it
(`Pattern.grows_ensureRead`, `Pattern.grows_putBack`).
-/

namespace Sift

/-! ## Readings that have grown -/

namespace Reading

variable {P : Type} {R : P → P → Prop}

theorem forall₂_trans (h : ∀ a b c, R a b → R b c → R a c) {as bs cs : List P}
    (hab : List.Forall₂ R as bs) (hbc : List.Forall₂ R bs cs) : List.Forall₂ R as cs := by
  induction hab generalizing cs with
  | nil => exact hbc
  | cons hhead _ ih =>
    cases hbc with
    | cons hhead' htail => exact .cons (h _ _ _ hhead hhead') (ih htail)

theorem Lift.refl (h : ∀ a, R a a) (r : Reading P) : Lift R r r := by
  cases r with
  | negation q => exact .negation (h q)
  | property names q => exact .property names (h q)
  | list qs => exact .list (List.forall₂_same.2 fun q _ => h q)
  | fields qs => exact .fields (List.forall₂_same.2 fun q _ => h q)
  | capture name => exact .capture name
  | glob g => exact .glob g
  | comparison c => exact .comparison c
  | range i => exact .range i
  | regex e => exact .regex e
  | added data => exact .added data

theorem Lift.trans (h : ∀ a b c, R a b → R b c → R a c) {r₁ r₂ r₃ : Reading P}
    (h₁₂ : Lift R r₁ r₂) (h₂₃ : Lift R r₂ r₃) : Lift R r₁ r₃ := by
  cases h₁₂ with
  | negation hq => cases h₂₃ with
    | negation hq' => exact .negation (h _ _ _ hq hq')
  | property names hq => cases h₂₃ with
    | property _ hq' => exact .property names (h _ _ _ hq hq')
  | list hqs => cases h₂₃ with
    | list hqs' => exact .list (forall₂_trans h hqs hqs')
  | fields hqs => cases h₂₃ with
    | fields hqs' => exact .fields (forall₂_trans h hqs hqs')
  | _ => exact h₂₃

theorem Kept.refl {R : Pattern → Pattern → Prop} (h : ∀ a, R a a) (r : Option (Reading Pattern)) :
    Kept R r r := by
  cases r with
  | none => exact .none
  | some r => exact .some (.refl h r)

theorem Kept.trans {R : Pattern → Pattern → Prop} (h : ∀ a b c, R a b → R b c → R a c)
    {r₁ r₂ r₃ : Option (Reading Pattern)} (h₁₂ : Kept R r₁ r₂) (h₂₃ : Kept R r₂ r₃) :
    Kept R r₁ r₃ := by
  cases h₁₂ with
  | none => exact h₂₃
  | some hl => cases h₂₃ with
    | some hl' => exact .some (hl.trans h hl')

end Reading

namespace Pattern

variable {p q : Pattern} {n : Nat} {k : Kind}

/-- A pattern has grown into another one: nothing that was kept is lost, and what was kept of
sub-patterns has grown as well, as far down as the given number of levels. -/
def Grows : (levels : Nat) → Pattern → Pattern → Prop
  | 0, p, q => q.forget = p.forget
  | levels + 1, p, q => q.forget = p.forget ∧ ∀ k r, p.cached? k = some r →
      ∃ r', q.cached? k = some r' ∧ Reading.Kept (Grows levels) r r'

theorem Grows.forget_eq (h : Grows n p q) : q.forget = p.forget := by
  cases n with
  | zero => exact h
  | succ n => exact h.1

theorem grows_refl (n : Nat) (p : Pattern) : Grows n p p := by
  induction n generalizing p with
  | zero => rfl
  | succ n ih => exact ⟨rfl, fun k r hr => ⟨r, hr, .refl ih r⟩⟩

theorem Grows.trans {p₁ p₂ p₃ : Pattern} (h₁₂ : Grows n p₁ p₂) (h₂₃ : Grows n p₂ p₃) :
    Grows n p₁ p₃ := by
  induction n generalizing p₁ p₂ p₃ with
  | zero => exact h₂₃.forget_eq.trans h₁₂.forget_eq
  | succ n ih =>
    refine ⟨h₂₃.forget_eq.trans h₁₂.forget_eq, fun k r hr => ?_⟩
    obtain ⟨r', hr', hkept⟩ := h₁₂.2 k r hr
    obtain ⟨r'', hr'', hkept'⟩ := h₂₃.2 k r' hr'
    exact ⟨r'', hr'', .trans (R := Grows n) (fun _ _ _ => ih) hkept hkept'⟩

/-- An entry may be replaced by one that it has grown into. -/
theorem grows_store {r r' : Option (Reading Pattern)} (hr : ∀ r₀, p.cached? k = some r₀ → r₀ = r)
    (h : Reading.Kept (Grows n) r r') : Grows (n + 1) p (p.store k r') := by
  refine ⟨rfl, fun k' r₀ hr₀ => ?_⟩
  rw [cached?_store]
  by_cases hk : k' = k
  · obtain rfl := hk
    rw [if_pos rfl, hr r₀ hr₀]
    exact ⟨r', rfl, h⟩
  · rw [if_neg hk]
    exact ⟨r₀, hr₀, .refl (grows_refl n) r₀⟩

end Pattern

/-! ## Matchers that read first -/

namespace Matcher

/-- The matcher reads a pattern that it has never read, and no other unless it is forced to. -/
def ReadsFirst (m : Matcher) : Prop :=
  ∀ p, m.shouldRead true none p = true ∧ ∀ kept, m.shouldRead false kept p = false

/-- The matcher reads no pattern unless it is forced to, and judges by the text alone. -/
def ReadsNever (m : Matcher) : Prop :=
  ∀ p kept, (∀ first, m.shouldRead first kept p = false) ∧
    ∀ ev v s, Pattern.judge ev p kept v s m = ((Pattern.judge ev p none v ⟨[], []⟩ m).1, kept, s)

/-- The matcher reads first, or never. -/
def IsFrugal (m : Matcher) : Prop := m.ReadsFirst ∨ m.ReadsNever

theorem readsFirst_builtIn {d : Dialect} (hanything : d ≠ .anything) (hnull : d ≠ .nullOrEmpty) :
    (builtIn d).ReadsFirst := by
  cases d with
  | anything => exact absurd rfl hanything
  | nullOrEmpty => exact absurd rfl hnull
  | _ => exact fun _ => ⟨rfl, fun _ => rfl⟩

/-- **All dialects are frugal.** -/
theorem isFrugal_builtIn (d : Dialect) : (builtIn d).IsFrugal := by
  by_cases h : d = .anything ∨ d = .nullOrEmpty
  · refine .inr fun p kept => ?_
    rcases h with rfl | rfl
    · exact ⟨fun _ => rfl, fun _ _ _ => rfl⟩
    · exact ⟨fun _ => rfl, fun _ _ _ => rfl⟩
  · rw [not_or] at h
    exact .inl (readsFirst_builtIn h.1 h.2)

end Matcher

/-- A matcher of the host that reads for the first time only. -/
theorem Added.readsFirst {a : Added} (h : a.shouldRead = fun first _ _ => first) :
    (Matcher.added a).ReadsFirst := by
  intro p
  simp [Matcher.shouldRead, h]

/-- Adapted matchers that read for the first time only do so in a chain. -/
theorem DataMatcher.readsFirst {m : DataMatcher} (h : m.shouldRead = fun first _ _ => first) :
    m.toMatcher.ReadsFirst := by
  intro p
  simp [toMatcher, toAdded, Matcher.shouldRead, h]

/-- Adapted matchers that judge by the value have nothing to read. -/
theorem ValueMatcher.readsNever (m : ValueMatcher) : m.toMatcher.ReadsNever :=
  fun _ _ => ⟨fun _ => rfl, fun _ _ _ => rfl⟩

namespace Pattern

variable {p : Pattern} {m : Matcher} {n : Nat} {k : Kind}

theorem ensureRead_force (p : Pattern) (m : Matcher) (s : State) :
    p.ensureRead m true s = (m.read p, p.store m.kind (m.read p), s.logged p m) := rfl

theorem ensureRead_of_cached?_eq_none (hm : m.ReadsFirst) (h : p.cached? m.kind = none)
    (s : State) :
    p.ensureRead m false s = (m.read p, p.store m.kind (m.read p), s.logged p m) := by
  obtain ⟨hfirst, -⟩ := hm p
  simp only [ensureRead, h, Option.isNone_none, Option.bind_none, hfirst, Bool.or_true, ↓reduceIte]

theorem ensureRead_of_cached?_eq_some (hm : m.ReadsFirst) {r : Option (Reading Pattern)}
    (h : p.cached? m.kind = some r) (s : State) : p.ensureRead m false s = (r, p, s) := by
  have hagain := (hm p).2 r
  simp only [ensureRead, h, Option.isNone_some, Option.bind_some, id_eq, hagain, Bool.or_false,
    Bool.false_eq_true, ↓reduceIte]

theorem grows_putBack {r r' : Option (Reading Pattern)} (hr : p.cached? k = some r)
    (h : Reading.Kept (Grows n) r r') :
    Grows (n + 1) p (p.putBack k r') ∧ (p.putBack k r').cached? k = some r' := by
  cases h with
  | none => exact ⟨grows_refl _ p, hr⟩
  | some hlift =>
    refine ⟨grows_store (fun r₀ hr₀ => Option.some.inj (hr₀.symm.trans hr)) (.some hlift), ?_⟩
    exact (cached?_store p k k _).trans (if_pos rfl)

/-- After a matcher that reads first there is an entry of it, and it holds what the matcher works
with. -/
theorem grows_ensureRead (hm : m.ReadsFirst) (p : Pattern) (s : State) :
    Grows (n + 1) p (p.ensureRead m false s).2.1 ∧
      (p.ensureRead m false s).2.1.cached? m.kind = some (p.ensureRead m false s).1 ∧
      (p.ensureRead m false s).2.2.bindings = s.bindings := by
  cases hentry : p.cached? m.kind with
  | none =>
    rw [ensureRead_of_cached?_eq_none hm hentry]
    have hvacuous : ∀ r₀, p.cached? m.kind = some r₀ → r₀ = m.read p := by
      intro r₀ hr₀
      rw [hentry] at hr₀
      cases hr₀
    refine ⟨grows_store hvacuous (.refl (grows_refl n) _), ?_, rfl⟩
    exact (cached?_store p m.kind m.kind _).trans (if_pos rfl)
  | some r =>
    rw [ensureRead_of_cached?_eq_some hm hentry]
    exact ⟨grows_refl _ p, hentry, rfl⟩

end Pattern

end Sift
