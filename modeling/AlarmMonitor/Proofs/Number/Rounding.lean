import AlarmMonitor.Number.Double
import Mathlib.Algebra.Order.Field.Power
import Mathlib.Data.Rat.Cast.Order
import Mathlib.Tactic.FieldSimp
import Mathlib.Tactic.Linarith
import Mathlib.Tactic.Positivity
import Mathlib.Tactic.Ring

/-!
# Bounds of rounding

A double stands for a rational magnitude.  A ratio below `overflowBound` is rounded to a double; that
is at most twice the ratio, and beyond it by at most half a unit of the last place of 53 bits if the
ratio is not below one.

* `Double.magnitude`, with `num_div_den`: numerator and denominator are one ratio;
* `exponentOf_spec`: the exponent that a ratio is rounded at;
* `exists_nearest`: what a ratio below the bound is rounded to.
-/

set_option autoImplicit false

namespace AlarmMonitor.Number.Double

/-! ## Powers as ratios -/

theorem powNum_pos {base : Nat} (h : 0 < base) (e : Int) : 0 < powNum base e := Nat.pow_pos h

theorem powDen_pos {base : Nat} (h : 0 < base) (e : Int) : 0 < powDen base e := Nat.pow_pos h

/-- Numerator and denominator of a power are the power. -/
theorem powNum_div_powDen {base : Nat} (h : 0 < base) (e : Int) :
    (powNum base e : ℚ) / powDen base e = (base : ℚ) ^ e := by
  have hne : (base : ℚ) ≠ 0 := by exact_mod_cast h.ne'
  cases e with
  | ofNat n => simp [powNum, powDen]
  | negSucc n =>
      have hnum : (Int.negSucc n).toNat = 0 := rfl
      simp [powNum, powDen, hnum, zpow_negSucc]

/-- The magnitude of a double. -/
def magnitude (d : Double) : ℚ := d.mantissa * 2 ^ d.exponent

theorem den_pos (d : Double) : 0 < d.den := powDen_pos (by decide) _

theorem num_div_den (d : Double) : (d.num : ℚ) / d.den = d.magnitude := by
  have hpow := powNum_div_powDen (by decide : 0 < 2) d.exponent
  rw [num, den, magnitude, Nat.cast_mul, mul_div_assoc, hpow]
  simp

/-- A ratio is compared with a power of two without division. -/
theorem div_lt_zpow_iff {n d : Nat} (hd : 0 < d) (e : Int) :
    n * powDen 2 e < d * powNum 2 e ↔ (n : ℚ) / d < 2 ^ e := by
  have hpow := powNum_div_powDen (by decide : 0 < 2) e
  have hden : (0 : ℚ) < powDen 2 e := by exact_mod_cast powDen_pos (by decide) e
  have hd' : (0 : ℚ) < d := by exact_mod_cast hd
  have hcast : (n : ℚ) / d < 2 ^ e ↔ (n : ℚ) * powDen 2 e < d * powNum 2 e := by
    rw [show (2 : ℚ) ^ e = (powNum 2 e : ℚ) / powDen 2 e by exact_mod_cast hpow.symm,
      div_lt_div_iff₀ hd' hden, mul_comm (d : ℚ)]
  rw [hcast]
  exact_mod_cast Iff.rfl

/-! ## Rounded quotients -/

variable {n d : Nat}

/-- A quotient is rounded up only if half of the divisor or more is left. -/
theorem roundQuotient_cases (n d : Nat) :
    roundQuotient n d = n / d ∨ (roundQuotient n d = n / d + 1 ∧ d ≤ 2 * (n % d)) := by
  simp only [roundQuotient]
  split_ifs with hlow hhigh
  · exact .inl rfl
  · exact .inr ⟨rfl, by omega⟩
  · exact .inl rfl
  · exact .inr ⟨rfl, by omega⟩

/-- A rounded quotient is at most half beyond the quotient, and at most twice the quotient. -/
theorem roundQuotient_mul_le (n d : Nat) :
    2 * (roundQuotient n d * d) ≤ 2 * n + d ∧ roundQuotient n d * d ≤ 2 * n := by
  have hdiv := Nat.div_add_mod n d
  rw [mul_comm] at hdiv
  rcases roundQuotient_cases n d with h | ⟨h, hrest⟩
  · rw [h]
    omega
  · rw [h, add_mul]
    omega

theorem roundQuotient_le (n : Nat) {d : Nat} (hd : 0 < d) :
    (roundQuotient n d : ℚ) ≤ n / d + 1 / 2 ∧ (roundQuotient n d : ℚ) ≤ 2 * (n / d) := by
  obtain ⟨hhalf, htwice⟩ := roundQuotient_mul_le n d
  have hd' : (0 : ℚ) < d := by exact_mod_cast hd
  have hhalf' : 2 * ((roundQuotient n d : ℚ) * d) ≤ 2 * n + d := by exact_mod_cast hhalf
  have htwice' : (roundQuotient n d : ℚ) * d ≤ 2 * n := by exact_mod_cast htwice
  constructor
  · rw [div_add_div _ _ hd'.ne' two_ne_zero, le_div_iff₀ (by positivity)]
    linarith
  · rw [← mul_div_assoc, le_div_iff₀ hd']
    exact htwice'

/-! ## The exponent of a ratio -/

theorem ratio_bounds_of_log2 (hn : n ≠ 0) (hd : 0 < d) :
    (2 : ℚ) ^ ((Nat.log2 n : Int) - Nat.log2 d - 1) < n / d ∧
      (n : ℚ) / d < 2 ^ ((Nat.log2 n : Int) - Nat.log2 d + 1) := by
  have hd' : (0 : ℚ) < d := by exact_mod_cast hd
  have hnlow : (2 : ℚ) ^ Nat.log2 n ≤ n := by exact_mod_cast Nat.log2_self_le hn
  have hnhigh : (n : ℚ) < 2 ^ (Nat.log2 n + 1) := by exact_mod_cast Nat.lt_log2_self
  have hdlow : (2 : ℚ) ^ Nat.log2 d ≤ d := by exact_mod_cast Nat.log2_self_le hd.ne'
  have hdhigh : (d : ℚ) < 2 ^ (Nat.log2 d + 1) := by exact_mod_cast Nat.lt_log2_self
  have hpow : ∀ a b : Int, (2 : ℚ) ^ (a - b) * 2 ^ b = 2 ^ a := by
    intro a b
    rw [← zpow_add₀ two_ne_zero, sub_add_cancel]
  constructor
  · rw [lt_div_iff₀ hd']
    calc (2 : ℚ) ^ ((Nat.log2 n : Int) - Nat.log2 d - 1) * d
        < 2 ^ ((Nat.log2 n : Int) - Nat.log2 d - 1) * 2 ^ (Nat.log2 d + 1) := by gcongr
      _ = 2 ^ Nat.log2 n := by
          have h := hpow (Nat.log2 n) (Nat.log2 d + 1)
          rw [← sub_sub] at h
          exact_mod_cast h
      _ ≤ n := hnlow
  · rw [div_lt_iff₀ hd']
    calc (n : ℚ) < 2 ^ (Nat.log2 n + 1) := hnhigh
      _ = 2 ^ ((Nat.log2 n : Int) - Nat.log2 d + 1) * 2 ^ Nat.log2 d := by
          have h := hpow (Nat.log2 n + 1) (Nat.log2 d)
          rw [show (Nat.log2 n : Int) + 1 - Nat.log2 d = (Nat.log2 n : Int) - Nat.log2 d + 1 by ring]
            at h
          exact_mod_cast h.symm
      _ ≤ 2 ^ ((Nat.log2 n : Int) - Nat.log2 d + 1) * d := by gcongr

/-- At the exponent of a ratio its mantissa has at most 53 bits, and exactly as many unless the
exponent is the least one. -/
theorem exponentOf_spec (hn : n ≠ 0) (hd : 0 < d) :
    leastExponent ≤ exponentOf n d ∧ (n : ℚ) / d < 2 ^ (exponentOf n d + 53) ∧
      (exponentOf n d = leastExponent ∨ (2 : ℚ) ^ (exponentOf n d + 52) ≤ n / d) := by
  obtain ⟨hlow, hhigh⟩ := ratio_bounds_of_log2 hn hd
  have hmono : ∀ a b : Int, a ≤ b → (2 : ℚ) ^ a ≤ 2 ^ b := fun a b h =>
    zpow_le_zpow_right₀ one_le_two h
  -- the exponent before it is bounded from below
  obtain ⟨tight, htight, hle, hlt⟩ : ∃ tight : Int,
      exponentOf n d = max tight leastExponent ∧ (2 : ℚ) ^ (tight + 52) ≤ n / d ∧
        (n : ℚ) / d < 2 ^ (tight + 53) := by
    simp only [exponentOf, div_lt_zpow_iff hd]
    split_ifs with h
    · refine ⟨_, rfl, ?_, ?_⟩
      · exact (hmono _ _ (by omega)).trans hlow.le
      · exact h.trans_le (hmono _ _ (by omega))
    · refine ⟨_, rfl, not_lt.mp h, ?_⟩
      exact hhigh.trans_le (hmono _ _ (by omega))
  refine ⟨by omega, hlt.trans_le (hmono _ _ (by omega)), ?_⟩
  by_cases h : leastExponent < tight
  · right
    rw [htight, max_eq_left h.le]
    exact hle
  · left
    omega

/-! ## The mantissa of a ratio -/

/-- The mantissa of a ratio at an exponent. -/
def mantissaAt (n d : Nat) (e : Int) : Nat := roundQuotient (n * powDen 2 e) (d * powNum 2 e)

/-- The ratio in units of its last place. -/
theorem ratio_scaled (hd : 0 < d) (e : Int) :
    ((n * powDen 2 e : Nat) : ℚ) / (d * powNum 2 e : Nat) = n / d / 2 ^ e := by
  have hd' : (d : ℚ) ≠ 0 := by exact_mod_cast hd.ne'
  have hnum : (powNum 2 e : ℚ) ≠ 0 := by exact_mod_cast (powNum_pos (by decide) e).ne'
  have hden : (powDen 2 e : ℚ) ≠ 0 := by exact_mod_cast (powDen_pos (by decide) e).ne'
  have hpow : (2 : ℚ) ^ e = (powNum 2 e : ℚ) / powDen 2 e := by
    exact_mod_cast (powNum_div_powDen (by decide : 0 < 2) e).symm
  rw [hpow]
  push_cast
  field_simp

theorem mantissaAt_le (n : Nat) (hd : 0 < d) (e : Int) :
    (mantissaAt n d e : ℚ) ≤ n / d / 2 ^ e + 1 / 2 ∧
      (mantissaAt n d e : ℚ) * 2 ^ e ≤ n / d + 2 ^ e / 2 ∧
      (mantissaAt n d e : ℚ) * 2 ^ e ≤ 2 * (n / d) := by
  have hunit : (0 : ℚ) < 2 ^ e := by positivity
  obtain ⟨hhalf, htwice⟩ := roundQuotient_le (n * powDen 2 e)
    (Nat.mul_pos hd (powNum_pos (by decide) e : 0 < powNum 2 e))
  rw [ratio_scaled hd] at hhalf htwice
  refine ⟨hhalf, ?_, ?_⟩
  · calc (mantissaAt n d e : ℚ) * 2 ^ e ≤ (n / d / 2 ^ e + 1 / 2) * 2 ^ e := by
          gcongr
          exact hhalf
      _ = n / d + 2 ^ e / 2 := by
          field_simp
  · calc (mantissaAt n d e : ℚ) * 2 ^ e ≤ 2 * (n / d / 2 ^ e) * 2 ^ e := by
          gcongr
          exact htwice
      _ = 2 * (n / d) := by
          field_simp

/-- The middle between the largest double and the power of two above it. -/
def overflowBound : ℚ := (2 ^ 54 - 1) * 2 ^ (970 : Int)

theorem zpow_eq_mul (a b c : Int) (h : a = b + c) : (2 : ℚ) ^ a = 2 ^ b * 2 ^ c := by
  rw [h, zpow_add₀ two_ne_zero]

/-- A ratio below the bound has an exponent that a double can have, and one to spare if the mantissa
is carried into it. -/
theorem exponentOf_le_greatest (hn : n ≠ 0) (hd : 0 < d) (h : (n : ℚ) / d < overflowBound) :
    exponentOf n d ≤ greatestExponent ∧
      (mantissaAt n d (exponentOf n d) = 2 * leastMantissa →
        exponentOf n d < greatestExponent) := by
  obtain ⟨-, -, htight⟩ := exponentOf_spec hn hd
  have hbelow : exponentOf n d ≤ greatestExponent := by
    by_contra hbeyond
    simp only [greatestExponent, not_le] at hbeyond
    rcases htight with hbottom | hfull
    · simp only [leastExponent] at hbottom
      omega
    · have hpow : (2 : ℚ) ^ (1024 : Int) ≤ 2 ^ (exponentOf n d + 52) :=
        zpow_le_zpow_right₀ one_le_two (by omega)
      have hbound : overflowBound < 2 ^ (1024 : Int) := by
        rw [overflowBound, zpow_eq_mul 1024 54 970 (by decide)]
        exact mul_lt_mul_of_pos_right (by norm_num) (by positivity)
      exact absurd (hfull.trans_lt h) (not_lt.mpr (hbound.le.trans hpow))
  refine ⟨hbelow, fun hcarry => lt_of_le_of_ne hbelow fun hlast => ?_⟩
  obtain ⟨hhalf, -, -⟩ := mantissaAt_le n hd (exponentOf n d)
  rw [hcarry, hlast, greatestExponent] at hhalf
  have hquotient : (n : ℚ) / d / 2 ^ (971 : Int) < 2 ^ 53 - 1 / 2 := by
    rw [div_lt_iff₀ (by positivity), zpow_eq_mul 971 1 970 (by decide)]
    refine h.trans_le (le_of_eq ?_)
    rw [overflowBound]
    generalize (2 : ℚ) ^ (970 : Int) = unit
    norm_num
    ring
  generalize (n : ℚ) / d / 2 ^ (971 : Int) = quotient at hhalf hquotient
  norm_num [leastMantissa] at hhalf hquotient
  linarith

/-! ## The nearest double -/

/-- A ratio below the bound is rounded to a double, the magnitude of which is its mantissa in units
of the last place. -/
theorem exists_nearest_eq (negative : Bool) (hn : n ≠ 0) (hd : 0 < d)
    (h : (n : ℚ) / d < overflowBound) :
    ∃ r, nearest negative n d = some r ∧
      r.magnitude = mantissaAt n d (exponentOf n d) * 2 ^ exponentOf n d := by
  obtain ⟨hgreatest, hspare⟩ := exponentOf_le_greatest hn hd h
  by_cases hcarry : mantissaAt n d (exponentOf n d) = 2 * leastMantissa
  · refine ⟨⟨negative, leastMantissa, exponentOf n d + 1⟩, ?_, ?_⟩
    · have hle : ¬ greatestExponent < exponentOf n d + 1 := by
        have hlt := hspare hcarry
        omega
      rw [mantissaAt] at hcarry
      simp [nearest, hn, hcarry, hle]
    · rw [magnitude, hcarry, zpow_add_one₀ two_ne_zero]
      push_cast
      ring
  · refine ⟨⟨negative, mantissaAt n d (exponentOf n d), exponentOf n d⟩, ?_, rfl⟩
    rw [mantissaAt] at hcarry
    simp [nearest, hn, hcarry, not_lt.mpr hgreatest, mantissaAt]

/-- A ratio below the bound is rounded to a double, the magnitude of which is at most twice the
ratio, and beyond the ratio by a relative error of at most one in 2⁵³ if the ratio is not below
one. -/
theorem exists_nearest (negative : Bool) (hd : 0 < d) (h : (n : ℚ) / d < overflowBound) :
    ∃ r, nearest negative n d = some r ∧ r.magnitude ≤ 2 * (n / d) ∧
      (1 ≤ (n : ℚ) / d → r.magnitude ≤ n / d * (1 + 1 / 2 ^ 53)) := by
  by_cases hn : n = 0
  · refine ⟨zero negative, by simp [nearest, hn], ?_, ?_⟩ <;> simp [hn, magnitude, zero]
  obtain ⟨r, hr, hmagnitude⟩ := exists_nearest_eq negative hn hd h
  obtain ⟨-, hhalf, htwice⟩ := mantissaAt_le n hd (exponentOf n d)
  rw [← hmagnitude] at hhalf htwice
  refine ⟨r, hr, htwice, fun hone => ?_⟩
  have hlast : (2 : ℚ) ^ exponentOf n d * 2 ^ (52 : Int) ≤ n / d := by
    rw [← zpow_add₀ two_ne_zero]
    obtain ⟨-, -, hbottom | hfull⟩ := exponentOf_spec hn hd
    · refine le_trans ?_ hone
      rw [hbottom]
      exact zpow_le_one_of_nonpos₀ one_le_two (by decide)
    · exact hfull
  norm_num at hlast ⊢
  linarith

end AlarmMonitor.Number.Double
