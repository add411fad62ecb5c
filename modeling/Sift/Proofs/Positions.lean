import Mathlib.Data.Nat.Log
import Mathlib.Tactic.Ring
import Sift.Number.Rounding

/-!
# Positions and values

The position of a nonnegative number is its binade times `2 ^ 52` plus its significand, counted so
that the first two binades, which have the same spacing, are numbered as one. The value is the
significand times the spacing. A significand of `2 ^ 53` is the first one of the next binade, so a
position need not be taken apart to be rounded up.

**Main results.** Values ascend strictly with their positions (`strictMono_scaled`). Rounding gives
the position of a multiple of the spacing, which is the quotient itself rounded to an integer
number of such units (`scaled_round`).
-/

namespace Sift.Number

/-! ## The value of a position -/

theorem unit_eq : unit = 2 ^ Format.binary64.scale := by decide +kernel

theorem unit_pos : 0 < unit := unit_eq ▸ Nat.two_pow_pos _

theorem scaled_eq (m : Nat) :
    scaled m = if m < 2 ^ 52 then m else (2 ^ 52 + m % 2 ^ 52) * 2 ^ (m / 2 ^ 52 - 1) := rfl

/-- The significand of a position in a binade: all of them are normal but in the first binade. -/
structure IsSignificand (e f : Nat) : Prop where
  le : f ≤ 2 ^ 53
  normal : e = 0 ∨ 2 ^ 52 ≤ f

/-- **The value of a significand** is counted in units of its binade. -/
theorem scaled_add {e f : Nat} (h : IsSignificand e f) : scaled (e * 2 ^ 52 + f) = f * 2 ^ e := by
  obtain ⟨hle, hnormal⟩ := h
  rw [scaled_eq]
  by_cases hsmall : f < 2 ^ 52
  · obtain rfl : e = 0 := hnormal.resolve_right (Nat.not_le_of_lt hsmall)
    rw [Nat.zero_mul, Nat.zero_add, if_pos hsmall, Nat.pow_zero, Nat.mul_one]
  · by_cases hfull : f = 2 ^ 53
    · -- The significand is the first one of the next binade.
      have hquotient : (e * 2 ^ 52 + f) / 2 ^ 52 - 1 = e + 1 := by omega
      have hremainder : (e * 2 ^ 52 + f) % 2 ^ 52 = 0 := by omega
      rw [if_neg (by omega), hquotient, hremainder, hfull]
      ring
    · have hquotient : (e * 2 ^ 52 + f) / 2 ^ 52 - 1 = e := by omega
      have hremainder : 2 ^ 52 + (e * 2 ^ 52 + f) % 2 ^ 52 = f := by omega
      rw [if_neg (by omega), hquotient, hremainder]

theorem exists_significand (m : Nat) :
    ∃ e f, m = e * 2 ^ 52 + f ∧ IsSignificand e f ∧ f < 2 ^ 53 := by
  by_cases hsmall : m < 2 ^ 52
  · exact ⟨0, m, by omega, ⟨by omega, .inl rfl⟩, by omega⟩
  · have hmod : m % 2 ^ 52 < 2 ^ 52 := Nat.mod_lt _ (by decide)
    exact ⟨m / 2 ^ 52 - 1, 2 ^ 52 + m % 2 ^ 52, by omega, ⟨by omega, .inr (by omega)⟩, by omega⟩

theorem scaled_lt_succ (m : Nat) : scaled m < scaled (m + 1) := by
  obtain ⟨e, f, rfl, h, hlt⟩ := exists_significand m
  have hsucc : IsSignificand e (f + 1) := ⟨hlt, h.normal.imp_right Nat.le_succ_of_le⟩
  rw [scaled_add h, Nat.add_assoc, scaled_add hsucc]
  exact Nat.mul_lt_mul_of_pos_right (Nat.lt_succ_self f) (Nat.two_pow_pos e)

/-- **Positions are in the order of their values.** -/
theorem strictMono_scaled : StrictMono scaled := strictMono_nat_of_lt_succ scaled_lt_succ

theorem scaled_zero : scaled 0 = 0 := rfl

/-! ## Rounding to integers -/

variable {n num den k : Nat}

theorem roundHalfEven_eq_or (num den : Nat) :
    roundHalfEven num den = num / den ∨ roundHalfEven num den = num / den + 1 := by
  rw [roundHalfEven]
  have hparity := Nat.mod_two_eq_zero_or_one (num / den)
  split_ifs <;> omega

theorem roundHalfEven_mul_right (hk : 0 < k) :
    roundHalfEven (num * k) (den * k) = roundHalfEven num den := by
  have hless : 2 * (num % den * k) < den * k ↔ 2 * (num % den) < den := by
    rw [← Nat.mul_assoc, Nat.mul_lt_mul_right hk]
  have hgreater : den * k < 2 * (num % den * k) ↔ den < 2 * (num % den) := by
    rw [← Nat.mul_assoc, Nat.mul_lt_mul_right hk]
  simp only [roundHalfEven, Nat.mul_div_mul_right _ _ hk, Nat.mul_mod_mul_right, hless, hgreater]

theorem roundHalfEven_mul_self (hden : 0 < den) : roundHalfEven (n * den) den = n := by
  simp [roundHalfEven, Nat.mul_div_cancel _ hden, hden]

theorem roundHalfEven_one (n : Nat) : roundHalfEven n 1 = n := by
  simp [roundHalfEven, Nat.mod_one]

/-! ## Rounding to a position -/

/-- The binade in which a quotient lies. -/
def binadeOf (num den : Nat) : Nat := Nat.log2 (num * unit / den) - 52

/-- The significand to which a quotient rounds in its binade. -/
def significandOf (num den : Nat) : Nat :=
  roundHalfEven (num * unit) (den * 2 ^ binadeOf num den)

theorem round_eq (num den : Nat) : Format.binary64.round num den =
    min infinity (binadeOf num den * 2 ^ 52 + significandOf num den) := by
  have hround : ∀ f : Format, f.round num den =
      let n := num * 2 ^ f.scale
      let e := Nat.log2 (n / den) - f.fractionBits
      min f.infinity (e * 2 ^ f.fractionBits + roundHalfEven n (den * 2 ^ e)) := fun _ => rfl
  rw [hround, ← unit_eq]
  rfl

theorem isSignificand_significandOf (num den : Nat) :
    IsSignificand (binadeOf num den) (significandOf num den) := by
  let q := num * unit / den
  let e := Nat.log2 q - 52
  have hquotient : num * unit / (den * 2 ^ e) = q / 2 ^ e := (Nat.div_div_eq_div_mul ..).symm
  have hround : significandOf num den = q / 2 ^ e ∨ significandOf num den = q / 2 ^ e + 1 :=
    hquotient ▸ roundHalfEven_eq_or (num * unit) (den * 2 ^ e)
  have hupper : q / 2 ^ e < 2 ^ 53 := by
    have hlt : q < 2 ^ (Nat.log2 q + 1) := Nat.lt_log2_self
    have hpow : 2 ^ (Nat.log2 q + 1) ≤ 2 ^ (53 + e) :=
      Nat.pow_le_pow_right (by decide) (by omega)
    rw [Nat.div_lt_iff_lt_mul (Nat.two_pow_pos e), ← Nat.pow_add]
    exact Nat.lt_of_lt_of_le hlt hpow
  refine ⟨by omega, ?_⟩
  by_cases hsubnormal : Nat.log2 q ≤ 52
  · exact .inl (Nat.sub_eq_zero_of_le hsubnormal)
  · have hne : q ≠ 0 := by
      rintro hzero
      rw [hzero] at hsubnormal
      exact hsubnormal (Nat.zero_le _)
    have hpow : 2 ^ 52 * 2 ^ e = 2 ^ Nat.log2 q := by
      rw [← Nat.pow_add]
      exact congrArg (2 ^ ·) (by omega)
    have hlower : 2 ^ 52 ≤ q / 2 ^ e := by
      rw [Nat.le_div_iff_mul_le (Nat.two_pow_pos e), hpow]
      exact Nat.log2_self_le hne
    exact .inr (by omega)

/-- **Rounding keeps to the spacing of the binade.** A quotient that does not round to infinity
rounds to the nearest multiple of the unit of its binade. -/
theorem scaled_round (h : Format.binary64.round num den < infinity) :
    scaled (Format.binary64.round num den) =
      significandOf num den * 2 ^ binadeOf num den := by
  rw [round_eq] at h ⊢
  rw [Nat.min_eq_right (by omega)]
  exact scaled_add (isSignificand_significandOf num den)

end Sift.Number
