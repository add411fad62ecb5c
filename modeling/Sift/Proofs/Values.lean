import Mathlib.Data.List.Basic
import Sift.Proofs.Equality
import Sift.Value.Path

/-!
# Values and what stands in them

Two measures of values. The *nesting* counts how many lists stand in one another; maps and objects
add nothing to it. The *weight* counts all values that stand in a value, itself included.

**Main results.** A path never leads to deeper nesting (`nesting_path_le`), while the elements of a
list are less nested than the list. Among plain values, equal ones have the same weight
(`weight_eq_of_equals`), so that no value equals a part of itself.

**Values without texts** may hold texts in maps and objects, but not in lists.

**Plain values** hold no object and no not-a-number. They equal themselves (`equals_self`).
-/

namespace Sift

namespace Value

/-! ## Nesting -/

mutual

/-- The greatest number of lists that stand in one another in a value. -/
def nesting : Value → Nat
  | list items => nestingOfList items + 1
  | map entries => nestingOfEntries entries
  | object _ members => nestingOfEntries members
  | _ => 0

/-- The nesting of the most nested value of a list. -/
def nestingOfList : List Value → Nat
  | [] => 0
  | v :: vs => max (nesting v) (nestingOfList vs)

/-- The nesting of the most nested value of some entries. -/
def nestingOfEntries : List (String × Value) → Nat
  | [] => 0
  | (_, v) :: rest => max (nesting v) (nestingOfEntries rest)

end

theorem nesting_le_of_mem {v : Value} {vs : List Value} (h : v ∈ vs) :
    v.nesting ≤ nestingOfList vs := by
  induction vs with
  | nil => cases h
  | cons w vs ih =>
    rw [nestingOfList]
    rcases List.mem_cons.1 h with rfl | h
    · exact Nat.le_max_left _ _
    · exact Nat.le_trans (ih h) (Nat.le_max_right _ _)

theorem nesting_lt_of_mem {v : Value} {vs : List Value} (h : v ∈ vs) :
    v.nesting < (list vs).nesting := by
  rw [nesting]
  exact Nat.lt_succ_of_le (nesting_le_of_mem h)

/-- The value of an entry that is found stands among the entries. -/
theorem mem_of_lookup_eq_some {name : String} {v : Value} {es : List (String × Value)}
    (h : es.lookup name = some v) : (name, v) ∈ es := by
  induction es with
  | nil => cases h
  | cons e es ih =>
    rw [List.lookup_cons] at h
    split at h
    · next he =>
      obtain rfl := Option.some.inj h
      rw [eq_of_beq he]
      exact List.mem_cons_self
    · exact List.mem_cons_of_mem e (ih h)

theorem nesting_le_of_mem_entries {name : String} {v : Value} {es : List (String × Value)}
    (h : (name, v) ∈ es) : v.nesting ≤ nestingOfEntries es := by
  induction es with
  | nil => cases h
  | cons e es ih =>
    rw [nestingOfEntries]
    rcases List.mem_cons.1 h with rfl | h
    · exact Nat.le_max_left _ _
    · exact Nat.le_trans (ih h) (Nat.le_max_right _ _)

/-- Where a member is found: behind an index or a key. -/
theorem member?_eq_some {v w : Value} {name : String} (h : v.member? name = some w) :
    (∃ vs, v = list vs ∧ w ∈ vs) ∨
      (∃ es, v = map es ∧ (name, w) ∈ es) ∨ ∃ o es, v = object o es ∧ (name, w) ∈ es := by
  cases v with
  | list vs =>
    obtain ⟨i, -, hi⟩ := Option.bind_eq_some_iff.1 h
    exact .inl ⟨vs, rfl, List.mem_of_getElem? hi⟩
  | map es => exact .inr (.inl ⟨es, rfl, mem_of_lookup_eq_some h⟩)
  | object o es => exact .inr (.inr ⟨o, es, rfl, mem_of_lookup_eq_some h⟩)
  | _ => cases h

/-- A step leads to a member or to null. -/
theorem step_cases (v : Value) (name : String) :
    v.step name = null ∨ ∃ w, v.member? name = some w ∧ v.step name = w := by
  unfold step
  cases v.member? name with
  | none => exact .inl rfl
  | some w => exact .inr ⟨w, rfl, rfl⟩

theorem nesting_step_le (v : Value) (name : String) : (v.step name).nesting ≤ v.nesting := by
  rcases step_cases v name with h | ⟨w, hw, h⟩ <;> rw [h]
  · exact Nat.zero_le _
  · rcases member?_eq_some hw with ⟨vs, rfl, hmem⟩ | ⟨es, rfl, hmem⟩ | ⟨o, es, rfl, hmem⟩
    · exact Nat.le_of_lt (nesting_lt_of_mem hmem)
    · exact nesting_le_of_mem_entries hmem
    · exact nesting_le_of_mem_entries hmem

/-- **A path never leads to deeper nesting.** -/
theorem nesting_path_le (v : Value) (names : List String) : (v.path names).nesting ≤ v.nesting := by
  induction names generalizing v with
  | nil => exact Nat.le_refl _
  | cons name names ih => exact Nat.le_trans (ih (v.step name)) (nesting_step_le v name)

/-! ## Weight -/

mutual

/-- The number of values that stand in a value, itself included. -/
def weight : Value → Nat
  | list items => weightOfList items + 1
  | map entries => weightOfEntries entries + 1
  | object _ members => weightOfEntries members + 1
  | _ => 1

/-- The weight of the values of a list together. -/
def weightOfList : List Value → Nat
  | [] => 0
  | v :: vs => weight v + weightOfList vs

/-- The weight of the values of some entries together. -/
def weightOfEntries : List (String × Value) → Nat
  | [] => 0
  | (_, v) :: rest => weight v + weightOfEntries rest

end

theorem weight_lt_of_mem {v : Value} {vs : List Value} (h : v ∈ vs) :
    v.weight < (list vs).weight := by
  have hle : v.weight ≤ weightOfList vs := by
    induction vs with
    | nil => cases h
    | cons w vs ih =>
      rw [weightOfList]
      rcases List.mem_cons.1 h with rfl | h
      · exact Nat.le_add_right _ _
      · exact Nat.le_trans (ih h) (Nat.le_add_left _ _)
  rw [weight]
  exact Nat.lt_succ_of_le hle

theorem weight_le_of_mem_entries {name : String} {v : Value} {es : List (String × Value)}
    (h : (name, v) ∈ es) : v.weight ≤ weightOfEntries es := by
  induction es with
  | nil => cases h
  | cons e es ih =>
    rw [weightOfEntries]
    rcases List.mem_cons.1 h with rfl | h
    · exact Nat.le_add_right _ _
    · exact Nat.le_trans (ih h) (Nat.le_add_left _ _)

/-- **A member is lighter** than the value that it stands in. -/
theorem weight_lt_of_member? {v w : Value} {name : String} (h : v.member? name = some w) :
    w.weight < v.weight := by
  rcases member?_eq_some h with ⟨vs, rfl, hmem⟩ | ⟨es, rfl, hmem⟩ | ⟨o, es, rfl, hmem⟩
  · exact weight_lt_of_mem hmem
  · exact Nat.lt_succ_of_le (weight_le_of_mem_entries hmem)
  · exact Nat.lt_succ_of_le (weight_le_of_mem_entries hmem)

/-! ## Values without texts -/

mutual

/-- Whether a value is no text and no list that holds one. -/
def isTextless : Value → Bool
  | string _ => false
  | list items => areTextless items
  | _ => true

/-- Whether all values of a list are without texts. -/
def areTextless : List Value → Bool
  | [] => true
  | v :: vs => isTextless v && areTextless vs

end

theorem isTextless_of_mem {v : Value} {vs : List Value} (h : v ∈ vs)
    (hvs : (list vs).isTextless = true) : v.isTextless = true := by
  rw [isTextless] at hvs
  induction vs with
  | nil => cases h
  | cons w vs ih =>
    rw [areTextless, Bool.and_eq_true] at hvs
    rcases List.mem_cons.1 h with rfl | h
    · exact hvs.1
    · exact ih h hvs.2

theorem ne_string_of_isTextless {v : Value} (h : v.isTextless = true) (s : String) :
    v ≠ .string s := by
  rintro rfl
  cases h

/-! ## Plain values -/

mutual

/-- Whether a value holds no object and no not-a-number. -/
def isPlain : Value → Bool
  | number n => !n.isNaN
  | list items => arePlain items
  | map entries => holdPlain entries
  | object _ _ => false
  | _ => true

/-- Whether all values of a list are plain. -/
def arePlain : List Value → Bool
  | [] => true
  | v :: vs => isPlain v && arePlain vs

/-- Whether all values of some entries are plain. -/
def holdPlain : List (String × Value) → Bool
  | [] => true
  | (_, v) :: rest => isPlain v && holdPlain rest

end

theorem isPlain_of_mem {v : Value} {vs : List Value} (h : v ∈ vs) (hvs : arePlain vs = true) :
    v.isPlain = true := by
  induction vs with
  | nil => cases h
  | cons w vs ih =>
    rw [arePlain, Bool.and_eq_true] at hvs
    rcases List.mem_cons.1 h with rfl | h
    · exact hvs.1
    · exact ih h hvs.2

theorem isPlain_of_mem_entries {name : String} {v : Value} {es : List (String × Value)}
    (h : (name, v) ∈ es) (hes : holdPlain es = true) : v.isPlain = true := by
  induction es with
  | nil => cases h
  | cons e es ih =>
    rw [holdPlain, Bool.and_eq_true] at hes
    rcases List.mem_cons.1 h with rfl | h
    · exact hes.1
    · exact ih h hes.2

theorem isPlain_step {v : Value} (hv : v.isPlain = true) (name : String) :
    (v.step name).isPlain = true := by
  rcases step_cases v name with h | ⟨w, hw, h⟩ <;> rw [h]
  · rfl
  · rcases member?_eq_some hw with ⟨vs, rfl, hmem⟩ | ⟨es, rfl, hmem⟩ | ⟨o, es, rfl, -⟩
    · exact isPlain_of_mem hmem hv
    · exact isPlain_of_mem_entries hmem hv
    · cases hv

mutual

theorem hasNaN_of_isPlain : ∀ {v : Value}, v.isPlain = true → v.hasNaN = false
  | null, _ | bool _, _ | string _, _ => rfl
  | number n, h => by simpa [isPlain, hasNaN] using h
  | list _, h => haveNaN_of_arePlain h
  | map _, h => holdNaN_of_holdPlain h

theorem haveNaN_of_arePlain : ∀ {vs : List Value}, arePlain vs = true → haveNaN vs = false
  | [], _ => rfl
  | v :: vs, h => by
    rw [arePlain, Bool.and_eq_true] at h
    rw [haveNaN, hasNaN_of_isPlain h.1, haveNaN_of_arePlain h.2, Bool.or_self]

theorem holdNaN_of_holdPlain : ∀ {es : List (String × Value)}, holdPlain es = true →
    holdNaN es = false
  | [], _ => rfl
  | (_, v) :: es, h => by
    rw [holdPlain, Bool.and_eq_true] at h
    rw [holdNaN, hasNaN_of_isPlain h.1, holdNaN_of_holdPlain h.2, Bool.or_self]

end

/-- **Plain values equal themselves.** -/
theorem equals_self {v : Value} (h : v.isPlain = true) : v.equals v = true :=
  equals_self_iff.2 (hasNaN_of_isPlain h)

mutual

/-- **Equal plain values have the same weight.** -/
theorem weight_eq_of_equals : ∀ {v w : Value}, v.isPlain = true → v.equals w = true →
    v.weight = w.weight
  | list _, list _, hv, h => congrArg (· + 1) (weightOfList_eq_of_equals hv h)
  | map _, map _, hv, h => congrArg (· + 1) (weightOfEntries_eq_of_equals hv h)
  | null, null, _, _ => rfl
  | bool _, bool _, _, _ => rfl
  | number _, number _, _, _ => rfl
  | string _, string _, _, _ => rfl

theorem weightOfList_eq_of_equals : ∀ {vs ws : List Value}, arePlain vs = true →
    equalsList vs ws = true → weightOfList vs = weightOfList ws
  | [], [], _, _ => rfl
  | v :: vs, w :: ws, hvs, h => by
    rw [arePlain, Bool.and_eq_true] at hvs
    rw [equalsList, Bool.and_eq_true] at h
    rw [weightOfList, weightOfList, weight_eq_of_equals hvs.1 h.1,
      weightOfList_eq_of_equals hvs.2 h.2]

theorem weightOfEntries_eq_of_equals : ∀ {es fs : List (String × Value)}, holdPlain es = true →
    equalsEntries es fs = true → weightOfEntries es = weightOfEntries fs
  | [], [], _, _ => rfl
  | (_, v) :: es, (_, w) :: fs, hes, h => by
    rw [holdPlain, Bool.and_eq_true] at hes
    rw [equalsEntries, Bool.and_eq_true, Bool.and_eq_true] at h
    rw [weightOfEntries, weightOfEntries, weight_eq_of_equals hes.1 h.1.2,
      weightOfEntries_eq_of_equals hes.2 h.2]

end

end Value

end Sift
