import Sift.Pattern.Operation
import Sift.Proofs.Coherence

/-!
# Operations and caches

Whatever is done with a pattern, its cache stays coherent. An operation that changes the settings
forgets what was read, and all others keep the pattern as it is but for its cache.

**Sub-patterns** of what was read may be worked with as well. They are derived from the pattern, so
their caches are as coherent as its own, one level further down (`levels_of_part?`).

**Main result.** Every operation leaves the pattern that is planned with a coherent cache
(`Coherent.perform`).
-/

namespace Sift

/-! ## What operations change -/

/-- What an operation makes of a pattern that has read nothing. -/
def Operation.reconfigure (p : Pattern) : Operation → Pattern
  | setMode mode => p.setMode mode
  | setIgnoreCase ignoreCase => p.setIgnoreCase ignoreCase
  | insert m => p.insert m
  | erase k => p.erase k
  | _ => p

/-- The operation changes no settings. This is all that can be done with a pattern that others
hold as well. -/
def Operation.IsShared : Operation → Prop
  | setMode _ | setIgnoreCase _ | insert _ | erase _ => False
  | onPart _ _ o => o.IsShared
  | _ => True

/-- The operation inserts no matcher but a regular one, and changes no settings of sub-patterns. -/
def Operation.IsRegular : Operation → Prop
  | insert m => m.IsRegular
  | onPart _ _ o => o.IsShared
  | _ => True

theorem Operation.IsShared.isRegular {o : Operation} (h : o.IsShared) : o.IsRegular := by
  cases o with
  | insert m => exact h.elim
  | onPart k i o => exact h
  | _ => trivial

theorem Operation.IsShared.reconfigure_eq {o : Operation} (h : o.IsShared) (p : Pattern) :
    o.reconfigure p = p := by
  cases o with
  | setMode _ | setIgnoreCase _ | insert _ | erase _ => exact h.elim
  | _ => rfl

/-! ## Sub-patterns -/

theorem forall₂_set {α β : Type} {R : α → β → Prop} {as : List α} {bs : List β}
    (h : List.Forall₂ R as bs) {i : Nat} {a : α} {b : β} (hb : bs[i]? = some b) (ha : R a b) :
    List.Forall₂ R (as.set i a) bs := by
  induction h generalizing i with
  | nil => exact .nil
  | cons hab h ih =>
    cases i with
    | zero =>
      obtain rfl := Option.some.inj hb
      exact .cons ha h
    | succ i => exact .cons hab (ih hb)

theorem forall₂_getElem? {α β : Type} {R : α → β → Prop} {as : List α} {bs : List β}
    (h : List.Forall₂ R as bs) {i : Nat} {a : α} (ha : as[i]? = some a) :
    ∃ b, bs[i]? = some b ∧ R a b := by
  induction h generalizing i with
  | nil => cases ha
  | @cons a' b as bs hab _ ih =>
    cases i with
    | zero =>
      obtain rfl := Option.some.inj ha
      exact ⟨b, rfl, hab⟩
    | succ i => exact ih ha

namespace Reading.Lift

variable {P Q : Type} {R : P → Q → Prop} {r : Reading P} {r₀ : Reading Q} {i : Nat}

/-- Sub-patterns at the same place are related. -/
theorem part? (h : Lift R r r₀) {p : P} (hp : r.part? i = some p) :
    ∃ q, r₀.part? i = some q ∧ R p q := by
  cases h with
  | negation h | property _ h =>
    obtain rfl := Option.some.inj hp
    exact ⟨_, rfl, h⟩
  | list h | fields h => exact forall₂_getElem? h hp
  | _ => cases hp

/-- A sub-pattern may be exchanged for a related one. -/
theorem setPart (h : Lift R r r₀) {p : P} {q : Q} (hq : r₀.part? i = some q) (hp : R p q) :
    Lift R (r.setPart i p) r₀ := by
  cases h with
  | negation _ =>
    obtain rfl := Option.some.inj hq
    exact .negation hp
  | property names _ =>
    obtain rfl := Option.some.inj hq
    exact .property names hp
  | list h => exact .list (forall₂_set h hq hp)
  | fields h => exact .fields (forall₂_set h hq hp)
  | capture name => exact .capture name
  | glob g => exact .glob g
  | comparison c => exact .comparison c
  | range e => exact .range e
  | regex e => exact .regex e
  | added data => exact .added data

end Reading.Lift

namespace Pattern

variable {p : Pattern} {n : Nat}

theorem Coherent.isRegular (hp : Coherent p.levels p) : p.settings.chain.IsRegular :=
  (show Coherent (_ + 1) p from hp).1

theorem agrees_withSettings {f : Settings → Settings} (h : (f p.settings).chain.IsRegular)
    (n : Nat) : Agrees n (p.withSettings f) (p.forget.withSettings f) :=
  ⟨rfl, coherent_of_cache_eq_nil (p := p.withSettings f) h rfl n⟩

theorem Agrees.trans {q₀ q q' : Pattern} (h : Agrees n q' q.forget) (hq : Agrees n q q₀) :
    Agrees n q' q₀ :=
  ⟨h.1.trans hq.1, h.2⟩

@[simp] theorem levels_reconfigure (o : Operation) (p : Pattern) :
    (o.reconfigure p).levels = p.levels := by
  cases o <;> rfl

/-- Reading ahead of time keeps the cache coherent. -/
theorem Coherent.readAll (hp : Coherent (n + 1) p) (force : Bool) (s : State) :
    Agrees (n + 1) (p.readAll force s).1 p.forget := by
  unfold Pattern.readAll
  refine List.foldlRecOn (motive := fun x : Pattern × State => Agrees (n + 1) x.1 p.forget) _ _
    ⟨rfl, hp⟩ ?_
  rintro ⟨q, s⟩ hq m hm
  rw [← settings_eq_of_forget_eq (p := q) hq.1] at hm
  exact (hq.2.ensureRead hm force s).2.1.trans hq

theorem mem_of_get?_eq_some {c : Chain} {k : Kind} {m : Matcher} (h : c.get? k = some m) :
    m ∈ c.matchers :=
  List.mem_of_find?_eq_some h

theorem Coherent.readKind (hp : Coherent (n + 1) p) (k : Kind) (force : Bool) (s : State) :
    Agrees (n + 1) (p.readKind k force s).2.1 p.forget := by
  unfold Pattern.readKind
  cases hk : p.settings.chain.get? k with
  | none => exact ⟨rfl, hp⟩
  | some m => exact (hp.ensureRead (mem_of_get?_eq_some hk) force s).2.1

theorem Coherent.reading? (hp : Coherent (n + 1) p) (k : Kind) (s : State) :
    Agrees (n + 1) (p.reading? k s).2.1 p.forget := by
  unfold Pattern.reading?
  cases hk : p.settings.chain.get? k with
  | none => exact ⟨rfl, hp⟩
  | some m => exact (hp.ensureRead (mem_of_get?_eq_some hk) false s).2.1

theorem kind_of_get?_eq_some {c : Chain} {k : Kind} {m : Matcher} (h : c.get? k = some m) :
    m.kind = k := by
  simpa using List.find?_some h

/-- The sub-patterns of what is read are one level further down. -/
theorem levels_of_part? {m : Matcher} {r : Reading Pattern} (hr : m.read p = some r) {i : Nat}
    {q : Pattern} (hq : r.part? i = some q) : q.levels + 1 = p.levels := by
  have h := kept_read_of_derive (p := p) (R := fun q _ => q.levels + 1 = p.levels)
    (fun hcan text => by
      simp only [canDerive, decide_eq_true_eq] at hcan
      simp only [levels, derive]
      omega) m
  rw [hr] at h
  cases h with
  | some h =>
    obtain ⟨_, -, hlevels⟩ := h.part? hq
    exact hlevels

/-- Work on a sub-pattern keeps the cache of the pattern coherent if it does so for the cache of the
sub-pattern. -/
theorem Coherent.onPart (hp : Coherent p.levels p) (k : Kind) (i : Nat)
    {f : Pattern → State → Answer × Pattern × State}
    (hf : ∀ q, Coherent q.levels q → ∀ s, Agrees q.levels (f q s).2.1 q.forget) (s : State) :
    Agrees p.levels (p.onPart k i f s).2.1 p.forget := by
  obtain ⟨n, hn⟩ : ∃ n, p.levels = n + 1 := ⟨_, rfl⟩
  rw [hn] at hp ⊢
  unfold Pattern.onPart Pattern.reading?
  cases hk : p.settings.chain.get? k with
  | none => exact ⟨rfl, hp⟩
  | some m =>
    have hm := mem_of_get?_eq_some hk
    obtain rfl := kind_of_get?_eq_some hk
    obtain ⟨hr, hp₁, -⟩ := hp.ensureRead hm false s
    dsimp only
    generalize p.ensureRead m false s = x at hr hp₁ ⊢
    obtain ⟨r, p₁, s₁⟩ := x
    dsimp only at hr hp₁ ⊢
    cases r with
    | none => exact hp₁
    | some r =>
      dsimp only
      cases hq : r.part? i with
      | none => exact hp₁
      | some q =>
        obtain ⟨r₀, hread, hlift⟩ : ∃ r₀, m.read p = some r₀ ∧ Reading.Lift (Agrees n) r r₀ := by
          generalize m.read p = x at hr
          cases hr with
          | some h => exact ⟨_, rfl, h⟩
        obtain ⟨q₀, hq₀, hagrees⟩ := hlift.part? hq
        have hqn : q.levels = n := by
          have := levels_of_part? hread hq₀
          rw [hagrees.levels_eq]
          omega
        have hwork := hf q (hqn ▸ hagrees.2) s₁
        rw [hqn] at hwork
        have hm₁ : m ∈ p₁.settings.chain.matchers := by rwa [settings_eq_of_forget_eq hp₁.1]
        have hread₁ : m.read p₁ = some r₀ := by rw [← read_forget, hp₁.1, read_forget, hread]
        refine ⟨hp₁.1, hp₁.2.store hm₁ ?_⟩
        rw [hread₁]
        exact .some (hlift.setPart hq₀ (hwork.trans hagrees))

/-- Every operation keeps the cache coherent, and changes the settings as planned. -/
theorem Coherent.perform (hp : Coherent p.levels p) {o : Operation} (ho : o.IsRegular) (s : State) :
    Agrees p.levels (o.perform p s).2.1 (o.reconfigure p.forget) := by
  induction o generalizing p s with
  | evaluate v | ask v => exact (evaluate_of_coherent hp v s).2.2
  | readAll force => exact hp.readAll force s
  | readKind k force => exact hp.readKind k force s
  | reading k => exact hp.reading? k s
  | setMode mode => exact agrees_withSettings (f := fun s => { s with mode }) hp.isRegular _
  | setIgnoreCase ignoreCase =>
    exact agrees_withSettings (f := fun s => { s with ignoreCase }) hp.isRegular _
  | insert m => exact agrees_withSettings (hp.isRegular.insert ho) _
  | erase k => exact agrees_withSettings (hp.isRegular.erase k) _
  | onPart k i o ih =>
    refine hp.onPart k i (fun q hq s => ?_) s
    have h := ih hq (Operation.IsShared.isRegular ho) s
    rwa [Operation.IsShared.reconfigure_eq ho] at h
  | _ => exact ⟨rfl, hp⟩

end Pattern

end Sift
