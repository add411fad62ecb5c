import Sift.Proofs.Delegation

/-!
# What a value offers

Judging a value looks at the value itself, at the elements of its lists and at its members, as far
in as the pattern asks. `Value.Reaches` says what stands in a value in this way, and `Value.Offers`
adds null, which is where a path leads that finds nothing.

**Main result.** Whatever is handed on to sub-patterns, however far down, they are asked about
nothing but what the first value offers (`Offers.delegates`).
-/

namespace Sift.Value

/-- What stands in a value: the value itself, the elements of a list that stands in it, and the
members of whatever stands in it. -/
inductive Reaches (v : Value) : Value → Prop
  | refl : Reaches v v
  | element {vs : List Value} {w : Value} : Reaches v (.list vs) → w ∈ vs → Reaches v w
  | member {u w : Value} {name : String} : Reaches v u → u.member? name = some w → Reaches v w

/-- Null, or something that stands in the value. -/
def Offers (v w : Value) : Prop := w = .null ∨ v.Reaches w

variable {v w u : Value}

theorem offers_self (v : Value) : v.Offers v := .inr .refl

theorem Offers.element {vs : List Value} (h : v.Offers (.list vs)) (hw : w ∈ vs) : v.Offers w := by
  rcases h with h | h
  · cases h
  · exact .inr (h.element hw)

theorem Offers.step (h : v.Offers w) (name : String) : v.Offers (w.step name) := by
  rcases step_cases w name with hnull | ⟨u, hu, hstep⟩
  · rw [hnull]
    exact .inl rfl
  · rw [hstep]
    rcases h with rfl | h
    · cases hu
    · exact .inr (h.member hu)

theorem Offers.path (h : v.Offers w) (names : List String) : v.Offers (w.path names) := by
  induction names generalizing w with
  | nil => exact h
  | cons name names ih => exact ih (h.step name)

/-- **Sub-patterns are asked about what the value offers**, and about nothing else. -/
theorem Offers.delegates {text t : List Char} (h : v.Offers w)
    (hd : Pattern.Delegates text w t u) : v.Offers u := by
  cases hd with
  | operand _ | group _ _ => exact h
  | element _ hw hu =>
    subst hw
    exact h.element hu
  | member _ => exact h.path _

end Sift.Value
