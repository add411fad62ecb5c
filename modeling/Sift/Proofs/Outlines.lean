import Sift.Proofs.Nested

/-!
# Outlines of readings

The *outline* of a reading is what it says apart from what its sub-patterns have read in their turn:
the sub-patterns are seen through a function that does not look at their caches.

**Main result.** Judging by a reading leaves its outline alone if evaluating leaves what the
function shows of the sub-patterns (`Pattern.leaves_judge`).
-/

namespace Sift

/-! ## Sub-patterns seen through a function -/

namespace Reading

variable {P Q : Type}

/-- The reading with a function applied to its sub-patterns. -/
def mapParts (f : P → Q) : Reading P → Reading Q
  | capture name => capture name
  | negation p => negation (f p)
  | glob g => glob g
  | comparison c => comparison c
  | range i => range i
  | list ps => list (ps.map f)
  | regex r => regex r
  | fields ps => fields (ps.map f)
  | property names p => property names (f p)
  | added data => added data

@[simp] theorem parts_mapParts (f : P → Q) (r : Reading P) :
    (r.mapParts f).parts = r.parts.map f := by
  cases r <;> rfl

theorem map_eq_self {f : P → P} {ps : List P} (h : ∀ p ∈ ps, f p = p) : ps.map f = ps :=
  (List.map_congr_left h).trans (List.map_id ps)

theorem mapParts_eq_self {f : P → P} {r : Reading P} (h : ∀ p ∈ r.parts, f p = p) :
    r.mapParts f = r := by
  cases r with
  | negation p => exact congrArg negation (h p (List.mem_singleton_self p))
  | property names p => exact congrArg (property names) (h p (List.mem_singleton_self p))
  | list ps => exact congrArg list (map_eq_self h)
  | fields ps => exact congrArg fields (map_eq_self h)
  | _ => rfl

theorem map_set_eq {f : P → Q} {ps : List P} {i : Nat} {p q : P} (hp : ps[i]? = some p)
    (h : f q = f p) : (ps.set i q).map f = ps.map f := by
  obtain ⟨hi, rfl⟩ := List.getElem?_eq_some_iff.1 hp
  have hlength : i < (ps.map f).length := by rwa [List.length_map]
  have hplace : (ps.map f)[i] = f q := by rw [List.getElem_map, h]
  rw [List.map_set, ← hplace, List.set_getElem_self]

/-- A sub-pattern may be exchanged for one that looks the same. -/
theorem mapParts_setPart {f : P → Q} {r : Reading P} {i : Nat} {p q : P}
    (hp : r.part? i = some p) (h : f q = f p) : (r.setPart i q).mapParts f = r.mapParts f := by
  cases r with
  | negation p' =>
    obtain rfl := Option.some.inj hp
    exact congrArg negation h
  | property names p' =>
    obtain rfl := Option.some.inj hp
    exact congrArg (property names) h
  | list ps => exact congrArg list (map_set_eq hp h)
  | fields ps => exact congrArg fields (map_set_eq hp h)
  | _ => rfl

end Reading

/-! ## Activities that leave things as they look -/

namespace Activity

variable {P α β γ : Type} {g : P → γ}

/-- What a function shows of a thing is the same after the activity. -/
def Leaves (g : P → γ) (f : Activity P α) : Prop := ∀ p s, g (f p s).2.1 = g p

theorem leaves_answer (a : α) : Leaves g (answer a) := fun _ _ => rfl

theorem Leaves.andThen {f : Activity P α} {h : α → Activity P β} (hf : Leaves g f)
    (hh : ∀ a, Leaves g (h a)) : Leaves g (f.andThen h) :=
  fun p s => (hh _ _ _).trans (hf p s)

theorem leaves_allOf {fs : Nat → Option (Activity P Bool)}
    (h : ∀ i f, fs i = some f → Leaves g f) : Leaves (List.map g) (allOf fs) := by
  intro ps
  induction ps generalizing fs with
  | nil => exact fun _ => rfl
  | cons p ps ih =>
    intro s
    cases hf : fs 0 with
    | none => simp only [allOf, hf]
    | some f =>
      have hhead := h 0 f hf p s
      by_cases hyes : (f p s).1 = true
      · have htail := ih (fun i => h (i + 1)) (f p s).2.2
        simp only [allOf, hf, if_pos hyes, List.map_cons, hhead, htail]
      · simp only [allOf, hf, if_neg hyes, List.map_cons, hhead]

end Activity

namespace Pattern

open Activity

variable {γ : Type} {g : Pattern → γ} {ev : Evaluator}

theorem compositional_leaves (g : Pattern → γ) :
    Compositional (Leaves g) (Leaves (List.map g)) where
  answer := leaves_answer
  andThen := Leaves.andThen
  allOf := leaves_allOf
  ofLength n hf := by
    intro ps s
    simp only [ofLength]
    split_ifs
    · exact hf ps s
    · rfl

/-- **Judging leaves the outline of a reading alone.** -/
theorem leaves_judge (h : ∀ v, Leaves g fun p s => ev p v s) (p : Pattern) (v : Value)
    (m : Matcher) :
    Leaves (Option.map (Reading.mapParts g)) fun r s => judge ev p r v s m := by
  intro r s
  have hjudged := judged ev p r v s m
  show (judge ev p r v s m).2.1.map (Reading.mapParts g) = r.map (Reading.mapParts g)
  generalize judge ev p r v s m = x at hjudged ⊢
  obtain ⟨verdict, r', s'⟩ := x
  cases hjudged with
  | left _ _ => rfl
  | negation u q => exact congrArg (some ∘ Reading.negation) (h u q s)
  | property names u q => exact congrArg (some ∘ Reading.property names) (h u q s)
  | list mode vs qs =>
    have hlist := (compositional_leaves g).matchList h mode vs
    exact congrArg (some ∘ Reading.list) (hlist qs s)
  | fields u qs =>
    have hall := (compositional_leaves g).matchAll h u
    exact congrArg (some ∘ Reading.fields) (hall qs s)

end Pattern

end Sift
