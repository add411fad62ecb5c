import Mathlib.Algebra.Order.Field.Power
import Mathlib.Algebra.Order.Field.Rat
import Mathlib.Tactic.FieldSimp
import Mathlib.Tactic.Linarith
import Sift.Number.Shortest
import Sift.Proofs.Positions

/-!
# Decimals and the numbers they belong to

The decimals that read back as a number are those between the midpoints to its neighbours. A
midpoint belongs to the number at the even position, so no decimal belongs to two numbers.

**Search.** Whatever digit counts the search for the shortest decimal tries, what it takes has
passed the test for the interval, and so has the exact expansion that stands behind the search.

**Main results.** The shortest decimal lies in the catchment of its number (`contains_shortest`), and
catchments do not overlap (`position_unique`). So a decimal shows which number it was made from.
-/

namespace Sift.Number

/-- The value of a decimal. -/
def Decimal.value (d : Decimal) : ℚ := d.digits * (10 : ℚ) ^ d.exponent

namespace Catchment

/-- Whether a decimal lies in the interval. -/
def Contains (i : Catchment) (x : ℚ) : Prop :=
  if i.closed then (i.low : ℚ) ≤ x * i.scale ∧ x * i.scale ≤ i.high
  else (i.low : ℚ) < x * i.scale ∧ x * i.scale < i.high

variable {i : Catchment} {x : ℚ}

theorem holds_iff {c : Nat} (h : x * i.scale = c) : i.holds c = true ↔ i.Contains x := by
  rw [holds, Contains, h]
  cases i.closed <;> simp

theorem inUnits_ofNat (i : Catchment) (k : Nat) :
    i.inUnits (.ofNat k) = { i with scale := i.scale * Nat.pow 10 k } := rfl

theorem inUnits_negSucc (i : Catchment) (k : Nat) : i.inUnits (.negSucc k) =
    { i with low := i.low * Nat.pow 10 (k + 1), value := i.value * Nat.pow 10 (k + 1),
             high := i.high * Nat.pow 10 (k + 1) } := rfl

/-- **Measured in units of a power of ten**, the interval contains as many units as before. -/
theorem contains_inUnits_iff {e : Int} : (i.inUnits e).Contains x ↔ i.Contains (x * 10 ^ e) := by
  cases e with
  | ofNat k =>
    have hscale : x * ((i.scale * Nat.pow 10 k : Nat) : ℚ) = x * 10 ^ k * i.scale := by
      rw [Nat.pow_eq]
      push_cast
      ring
    rw [inUnits_ofNat, Contains, Contains, Int.ofNat_eq_natCast, zpow_natCast, hscale]
  | negSucc k =>
    have hpos : (0 : ℚ) < 10 ^ (k + 1) := by positivity
    have hscale : x * (10 ^ (k + 1))⁻¹ * i.scale = x * i.scale / 10 ^ (k + 1) := by
      field_simp
    have hcast : ∀ n : Nat, ((n * Nat.pow 10 (k + 1) : Nat) : ℚ) = n * 10 ^ (k + 1) := by
      intro n
      rw [Nat.pow_eq]
      push_cast
      rfl
    rw [inUnits_negSucc, Contains, Contains, zpow_negSucc, hscale]
    simp only [hcast, le_div_iff₀ hpos, div_le_iff₀ hpos, lt_div_iff₀ hpos, div_lt_iff₀ hpos]

theorem Contains.bounds (h : i.Contains x) : (i.low : ℚ) ≤ x * i.scale ∧ x * i.scale ≤ i.high := by
  rw [Contains] at h
  split_ifs at h
  · exact h
  · exact ⟨h.1.le, h.2.le⟩

theorem Contains.bounds_of_open (h : i.Contains x) (hopen : i.closed = false) :
    (i.low : ℚ) < x * i.scale ∧ x * i.scale < i.high := by
  rwa [Contains, if_neg (by simp [hopen])] at h

end Catchment

/-! ## The search for the shortest decimal -/

variable {tie : Tie} {i : Catchment} {e : Int} {d : Decimal} {m : Nat}

/-- What is taken has passed the test. -/
theorem candidate?_eq_some (h : candidate? tie i e = some d) :
    d.exponent = e ∧ (i.inUnits e).holds (d.digits * (i.inUnits e).scale) = true := by
  simp only [candidate?] at h
  split_ifs at h with hboth habove hbelow habove
  · obtain rfl := Option.some.inj h
    exact ⟨rfl, (Bool.and_eq_true_iff.1 hboth).2⟩
  · obtain rfl := Option.some.inj h
    exact ⟨rfl, (Bool.and_eq_true_iff.1 hboth).1⟩
  · obtain rfl := Option.some.inj h
    exact ⟨rfl, hbelow⟩
  · obtain rfl := Option.some.inj h
    exact ⟨rfl, habove⟩

theorem contains_candidate (h : candidate? tie i e = some d) : i.Contains d.value := by
  obtain ⟨rfl, hholds⟩ := candidate?_eq_some h
  have hunits : (i.inUnits d.exponent).Contains d.digits :=
    (Catchment.holds_iff (by push_cast; rfl)).1 hholds
  exact Catchment.contains_inUnits_iff.1 hunits

/-- Trailing zeros may be moved into the exponent. -/
theorem value_trimZeros (fuel : Nat) (d : Decimal) : (trimZeros fuel d).value = d.value := by
  induction fuel generalizing d with
  | zero => rfl
  | succ fuel ih =>
    rw [trimZeros]
    split_ifs with h
    · have hdigits : d.digits = d.digits / 10 * 10 := by omega
      have hcast : (d.digits : ℚ) = (d.digits / 10 : Nat) * 10 := by
        exact_mod_cast congrArg (Nat.cast : Nat → ℚ) hdigits
      rw [ih, Decimal.value, Decimal.value, hcast, zpow_add_one₀ (by norm_num : (10 : ℚ) ≠ 0)]
      ring
    · rfl

/-! ## The catchments of positions -/

/-- A number lies in its own catchment. -/
theorem contains_value (hm : 0 < m) {x : ℚ} (hx : x * (catchmentAt m).scale = (catchmentAt m).value) :
    (catchmentAt m).Contains x := by
  have hbelow : scaled (m - 1) < scaled m := strictMono_scaled (Nat.sub_lt hm Nat.one_pos)
  have habove : scaled m < scaled (m + 1) := scaled_lt_succ m
  have hlow : (catchmentAt m).low < (catchmentAt m).value := by
    simp only [catchmentAt]
    omega
  have hhigh : (catchmentAt m).value < (catchmentAt m).high := by
    simp only [catchmentAt]
    omega
  rw [← Catchment.holds_iff hx, Catchment.holds]
  split_ifs
  · simp [hlow.le, hhigh.le]
  · simp [hlow, hhigh]

theorem contains_zero : (catchmentAt 0).Contains 0 :=
  (Catchment.holds_iff (c := 0) (by rw [zero_mul, Nat.cast_zero])).1 rfl

/-- A fraction with a power of two below the line, written as a decimal. -/
theorem value_mul_two_pow (n k : Nat) :
    Decimal.value ⟨n * Nat.pow 5 k, -(k : Int)⟩ * (Nat.pow 2 k : Nat) = n := by
  have hten : (10 : ℚ) ^ k = 5 ^ k * 2 ^ k := by
    rw [← mul_pow]
    norm_num
  rw [Decimal.value, Nat.pow_eq, Nat.pow_eq, zpow_neg, zpow_natCast, hten]
  push_cast
  field_simp

theorem scale_catchmentAt : (catchmentAt m).scale = Nat.pow 2 1075 := by
  have hunit : 2 * unit = Nat.pow 2 1075 := by decide +kernel
  exact hunit

/-- **The shortest decimal of a number belongs to it.** -/
theorem contains_shortest (hm : 0 < m) : (catchmentAt m).Contains (shortest tie m).value := by
  simp only [shortest, value_trimZeros]
  generalize hfound : List.findSome? _ _ = found
  cases found with
  | none =>
    refine contains_value hm ?_
    have hexponent : (-1075 : Int) = -((1075 : Nat) : Int) := rfl
    rw [scale_catchmentAt, Option.getD_none, hexponent]
    -- The power is not to be computed.
    generalize 1075 = k
    exact value_mul_two_pow _ k
  | some d =>
    obtain ⟨n, -, hn⟩ := List.exists_of_findSome?_eq_some hfound
    exact contains_candidate hn

theorem high_lt_low {m m' : Nat} (h : m + 1 < m') : (catchmentAt m).high < (catchmentAt m').low := by
  have hlow : scaled m < scaled (m' - 1) := strictMono_scaled (by omega)
  have hhigh : scaled (m + 1) < scaled m' := strictMono_scaled h
  simp only [catchmentAt]
  omega

/-- **Catchments do not overlap.** Neighbours share nothing but a midpoint, which belongs to the
one at the even position. -/
theorem not_contains_of_lt {m m' : Nat} {x : ℚ} (h : m < m') (hx : (catchmentAt m).Contains x) :
    ¬ (catchmentAt m').Contains x := by
  intro hx'
  have hscale : (catchmentAt m).scale = (catchmentAt m').scale := rfl
  obtain ⟨-, hhigh⟩ := hx.bounds
  obtain ⟨hlow, -⟩ := hx'.bounds
  rw [hscale] at hhigh
  rcases Nat.lt_or_eq_of_le h with hfar | rfl
  · have hapart : ((catchmentAt m).high : ℚ) < (catchmentAt m').low :=
      Nat.cast_lt.2 (high_lt_low hfar)
    linarith
  · have hmidpoint : ((catchmentAt m).high : ℚ) = (catchmentAt (m + 1)).low := rfl
    rcases Nat.mod_two_eq_zero_or_one m with heven | hodd
    · have hopen : (catchmentAt (m + 1)).closed = false := decide_eq_false (by omega)
      have hstrict := (hx'.bounds_of_open hopen).1
      linarith
    · have hopen : (catchmentAt m).closed = false := decide_eq_false (by omega)
      have hstrict := (hx.bounds_of_open hopen).2
      rw [hscale] at hstrict
      linarith

/-- **A decimal belongs to one number at most.** -/
theorem position_unique {m m' : Nat} {x : ℚ} (h : (catchmentAt m).Contains x)
    (h' : (catchmentAt m').Contains x) : m = m' := by
  rcases Nat.lt_trichotomy m m' with hlt | heq | hgt
  · exact absurd h' (not_contains_of_lt hlt h)
  · exact heq
  · exact absurd h (not_contains_of_lt hgt h')

end Sift.Number
