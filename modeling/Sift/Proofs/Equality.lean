import Sift.Value.Basic

/-!
# Equality of values

Values of the same kind are equal if their parts are, at every depth, and objects if they have the
same identity. Numbers spoil reflexivity, since not-a-number differs from itself.

**Main results.** A value equals itself exactly if no not-a-number stands in it, objects apart
(`equals_self_iff`). Equality does not depend on the order of its sides (`equals_comm`).
-/

namespace Sift

/-- A number equals itself unless it is not a number. -/
theorem Number.equals_self_iff {x : Number} : x.equals x = true ↔ x.isNaN = false := by
  cases x with
  | nan => decide
  | signed negative m => cases negative <;> simp [equals, key, isNaN]

theorem Number.equals_comm (x y : Number) : x.equals y = y.equals x := by
  unfold equals
  cases x.key with
  | none => cases y.key <;> rfl
  | some a =>
    cases y.key with
    | none => rfl
    | some b => exact Bool.beq_comm

namespace Value

/-! ## Values that equal themselves -/

mutual

/-- Whether a not-a-number stands in a value. What is behind an object does not count, since it is
known by its identity. -/
def hasNaN : Value → Bool
  | number n => n.isNaN
  | list items => haveNaN items
  | map entries => holdNaN entries
  | _ => false

/-- Whether a not-a-number stands in some value of a list. -/
def haveNaN : List Value → Bool
  | [] => false
  | v :: vs => hasNaN v || haveNaN vs

/-- Whether a not-a-number stands in the value of some entry. -/
def holdNaN : List (String × Value) → Bool
  | [] => false
  | (_, v) :: rest => hasNaN v || holdNaN rest

end

mutual

/-- **A value equals itself** unless a not-a-number stands in it. -/
theorem equals_self_iff : ∀ {v : Value}, v.equals v = true ↔ v.hasNaN = false
  | null => by decide
  | bool b => iff_of_true (beq_self_eq_true b) rfl
  | number _ => Number.equals_self_iff
  | string s => iff_of_true (beq_self_eq_true s) rfl
  | list _ => equalsList_self_iff
  | map _ => equalsEntries_self_iff
  | object o _ => iff_of_true (beq_self_eq_true o) rfl

theorem equalsList_self_iff : ∀ {vs : List Value}, equalsList vs vs = true ↔ haveNaN vs = false
  | [] => iff_of_true rfl rfl
  | v :: vs => by
    rw [equalsList, haveNaN, Bool.and_eq_true, Bool.or_eq_false_iff, equals_self_iff,
      equalsList_self_iff]

theorem equalsEntries_self_iff : ∀ {es : List (String × Value)},
    equalsEntries es es = true ↔ holdNaN es = false
  | [] => iff_of_true rfl rfl
  | (k, v) :: es => by
    rw [equalsEntries, holdNaN, Bool.and_eq_true, Bool.and_eq_true, Bool.or_eq_false_iff,
      equals_self_iff, equalsEntries_self_iff, and_iff_right (beq_self_eq_true k)]

end

theorem equals_self_eq_not_hasNaN (v : Value) : v.equals v = !v.hasNaN := by
  rw [Bool.eq_iff_iff, equals_self_iff, Bool.not_eq_true']

/-! ## Symmetry -/

mutual

/-- **The order of the sides does not matter.** -/
theorem equals_comm : ∀ v w : Value, v.equals w = w.equals v
  | null, w => by cases w <;> rfl
  | bool a, w => by
    cases w with
    | bool b => exact Bool.beq_comm
    | _ => rfl
  | number x, w => by
    cases w with
    | number y => exact Number.equals_comm x y
    | _ => rfl
  | string s, w => by
    cases w with
    | string t => exact Bool.beq_comm
    | _ => rfl
  | list vs, w => by
    cases w with
    | list ws => exact equalsList_comm vs ws
    | _ => rfl
  | map es, w => by
    cases w with
    | map fs => exact equalsEntries_comm es fs
    | _ => rfl
  | object o _, w => by
    cases w with
    | object o' _ => exact Bool.beq_comm
    | _ => rfl

theorem equalsList_comm : ∀ vs ws : List Value, equalsList vs ws = equalsList ws vs
  | [], [] => rfl
  | [], _ :: _ => rfl
  | _ :: _, [] => rfl
  | v :: vs, w :: ws => by
    rw [equalsList, equalsList, equals_comm v w, equalsList_comm vs ws]

theorem equalsEntries_comm : ∀ es fs : List (String × Value),
    equalsEntries es fs = equalsEntries fs es
  | [], [] => rfl
  | [], _ :: _ => rfl
  | _ :: _, [] => rfl
  | (k, v) :: es, (l, w) :: fs => by
    rw [equalsEntries, equalsEntries, Bool.beq_comm (a := k), equals_comm v w,
      equalsEntries_comm es fs]

end

end Value

end Sift
