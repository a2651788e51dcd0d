import AlarmMonitor.Proofs.Number.Numeral
import AlarmMonitor.Proofs.Number.Rounding

/-!
# The search for the shortest digits

The decimal digits of a double are looked for on grids that get finer, and found: the finest grid is
so fine that the place behind the magnitude reads back.  What is found lies at most half a unit of
the last place beyond the magnitude.

* `Double.IsFinite`: mantissa and exponent of a finite double;
* `covers_le`: what reads back is not far beyond the magnitude;
* `decimalExponent_le`: where the search begins;
* `searchGrids_covers`: it ends with a number that reads back;
* `shortest_spec`: the digits that are found.
-/

set_option autoImplicit false

namespace AlarmMonitor.Number.Double

/-- The mantissa has at most 53 bits, and the exponent is one that a double can have. -/
structure IsFinite (d : Double) : Prop where
  mantissa : d.mantissa < 2 * leastMantissa
  least : leastExponent ≤ d.exponent
  greatest : d.exponent ≤ greatestExponent

variable {d : Double}

/-! ## What reads back -/

theorem ratioLe_iff {a b c e : Nat} (hb : 0 < b) (he : 0 < e) :
    ratioLe a b c e = true ↔ (a : ℚ) / b ≤ c / e := by
  have hb' : (0 : ℚ) < b := by exact_mod_cast hb
  have he' : (0 : ℚ) < e := by exact_mod_cast he
  rw [ratioLe, decide_eq_true_eq, div_le_div_iff₀ hb' he']
  exact_mod_cast Iff.rfl

/-- A multiple of a power as a ratio. -/
theorem mul_powNum_div_powDen {base : Nat} (h : 0 < base) (c : Nat) (e : Int) :
    ((c * powNum base e : Nat) : ℚ) / powDen base e = c * (base : ℚ) ^ e := by
  rw [Nat.cast_mul, mul_div_assoc, powNum_div_powDen h]

/-- The upper end of what reads back, half a unit of the last place beyond the magnitude. -/
theorem upper_end (d : Double) :
    ((4 * d.mantissa + 2 : Nat) : ℚ) * 2 ^ (d.exponent - 2) =
      (d.mantissa + 1 / 2) * 2 ^ d.exponent := by
  rw [zpow_eq_mul d.exponent (d.exponent - 2) 2 (by omega)]
  push_cast
  norm_num
  ring

/-- What reads back lies at most half a unit of the last place beyond the magnitude. -/
theorem covers_le {c : Nat} {e : Int} (h : d.covers c e = true) :
    (c : ℚ) * 10 ^ e ≤ (d.mantissa + 1 / 2) * 2 ^ d.exponent := by
  have hten := powDen_pos (by decide : 0 < 10) e
  have htwo := powDen_pos (by decide : 0 < 2) (d.exponent - 2)
  have hle : ratioLe (c * powNum 10 e) (powDen 10 e)
      ((4 * d.mantissa + 2) * powNum 2 (d.exponent - 2)) (powDen 2 (d.exponent - 2)) = true := by
    simp only [covers] at h
    split at h
    · exact (Bool.and_eq_true_iff.mp h).2
    · have hnot := (Bool.and_eq_true_iff.mp h).2
      simp only [ratioLe, Bool.not_eq_true', decide_eq_false_iff_not, not_le] at hnot
      simpa [ratioLe] using hnot.le
  rw [ratioLe_iff hten htwo, mul_powNum_div_powDen (by decide), mul_powNum_div_powDen (by decide)]
    at hle
  exact_mod_cast hle.trans_eq (upper_end d)

/-- What lies beyond the magnitude, but not as far as half a unit of the last place, reads back. -/
theorem covers_of_lt {c : Nat} {e : Int} (hlow : d.magnitude < c * 10 ^ e)
    (hhigh : (c : ℚ) * 10 ^ e < (d.mantissa + 1 / 2) * 2 ^ d.exponent) : d.covers c e = true := by
  have hten := powDen_pos (by decide : 0 < 10) e
  have htwo := powDen_pos (by decide : 0 < 2) (d.exponent - 2)
  have hlowEnd : (((4 * d.mantissa - d.lowerGap) * powNum 2 (d.exponent - 2) : Nat) : ℚ) /
      powDen 2 (d.exponent - 2) < ((c * powNum 10 e : Nat) : ℚ) / powDen 10 e := by
    rw [mul_powNum_div_powDen (by decide), mul_powNum_div_powDen (by decide)]
    refine lt_of_le_of_lt ?_ (by exact_mod_cast hlow)
    have hsub : ((4 * d.mantissa - d.lowerGap : Nat) : ℚ) ≤ 4 * d.mantissa := by
      exact_mod_cast Nat.sub_le _ _
    calc ((4 * d.mantissa - d.lowerGap : Nat) : ℚ) * ((2 : Nat) : ℚ) ^ (d.exponent - 2)
        ≤ 4 * d.mantissa * 2 ^ (d.exponent - 2) := by
          push_cast
          gcongr
      _ = d.magnitude := by
          rw [magnitude, zpow_eq_mul d.exponent (d.exponent - 2) 2 (by omega)]
          norm_num
          ring
  have hhighEnd : ((c * powNum 10 e : Nat) : ℚ) / powDen 10 e <
      (((4 * d.mantissa + 2) * powNum 2 (d.exponent - 2) : Nat) : ℚ) /
        powDen 2 (d.exponent - 2) := by
    rw [mul_powNum_div_powDen (by decide), mul_powNum_div_powDen (by decide)]
    refine lt_of_lt_of_eq (by exact_mod_cast hhigh) ?_
    exact_mod_cast (upper_end d).symm
  simp only [covers]
  split
  · rw [Bool.and_eq_true_iff, ratioLe_iff htwo hten, ratioLe_iff hten htwo]
    exact ⟨hlowEnd.le, hhighEnd.le⟩
  · rw [Bool.and_eq_true_iff, Bool.not_eq_true', Bool.not_eq_true', ← Bool.not_eq_true,
      ← Bool.not_eq_true, ratioLe_iff hten htwo, ratioLe_iff htwo hten]
    exact ⟨not_le.mpr hlowEnd, not_le.mpr hhighEnd⟩

/-- Zero does not read back as another double. -/
theorem ne_zero_of_covers {c : Nat} {e : Int} (hd : d.mantissa ≠ 0) (h : d.covers c e = true) :
    c ≠ 0 := by
  rintro rfl
  have hpos : 0 < (4 * d.mantissa - d.lowerGap) * powNum 2 (d.exponent - 2) * powDen 10 e := by
    have hgap : d.lowerGap ≤ 2 := by
      rw [lowerGap]
      split <;> decide
    refine Nat.mul_pos (Nat.mul_pos (by omega) (powNum_pos (by decide) _))
      (powDen_pos (by decide) _)
  simp only [covers, ratioLe, Nat.zero_mul] at h
  split at h
  · have hle := (Bool.and_eq_true_iff.mp h).1
    simp only [decide_eq_true_eq] at hle
    omega
  · simp at h

/-! ## Candidates -/

theorem covers_of_candidate {c : Nat} {e : Int} (h : d.candidate e = some c) :
    d.covers c e = true := by
  simp only [candidate] at h
  split at h
  · next hlow hhigh =>
      split_ifs at h <;> cases h
      · exact hlow
      · exact hhigh
      · exact hlow
      · exact hhigh
  · next hlow _ =>
      cases h
      exact hlow
  · next _ hhigh =>
      cases h
      exact hhigh
  · cases h

/-- The two neighbours of the magnitude on a grid. -/
theorem neighbours (d : Double) (e : Int) :
    (((d.num * powDen 10 e) / (d.den * powNum 10 e) : Nat) : ℚ) * 10 ^ e ≤ d.magnitude ∧
      d.magnitude < ((d.num * powDen 10 e) / (d.den * powNum 10 e) + 1 : Nat) * 10 ^ e := by
  have hnum := powNum_pos (by decide : 0 < 10) e
  have hden := powDen_pos (by decide : 0 < 10) e
  have hpos : 0 < d.den * powNum 10 e := Nat.mul_pos d.den_pos hnum
  have hten : (0 : ℚ) < 10 ^ e := by positivity
  have hratio : ((d.num * powDen 10 e : Nat) : ℚ) / (d.den * powNum 10 e : Nat) =
      d.magnitude / 10 ^ e := by
    have hpow := powNum_div_powDen (by decide : 0 < 10) e
    have hnum' : (powNum 10 e : ℚ) ≠ 0 := by exact_mod_cast hnum.ne'
    have hden' : (powDen 10 e : ℚ) ≠ 0 := by exact_mod_cast hden.ne'
    have hd : (d.den : ℚ) ≠ 0 := by exact_mod_cast d.den_pos.ne'
    rw [← num_div_den, show (10 : ℚ) ^ e = (powNum 10 e : ℚ) / powDen 10 e by
      exact_mod_cast hpow.symm]
    push_cast
    field_simp
  constructor
  · rw [← le_div_iff₀ hten, ← hratio]
    rw [le_div_iff₀ (by exact_mod_cast hpos)]
    exact_mod_cast Nat.div_mul_le_self _ _
  · rw [← div_lt_iff₀ hten, ← hratio, div_lt_iff₀ (by exact_mod_cast hpos), ← Nat.cast_mul,
      Nat.cast_lt, Nat.mul_comm (_ + 1)]
    exact Nat.lt_mul_div_succ _ hpos

/-- A grid finer than half a unit of the last place has a candidate. -/
theorem isSome_candidate {e : Int} (h : (10 : ℚ) ^ e < 2 ^ d.exponent / 2) :
    (d.candidate e).isSome = true := by
  obtain ⟨hlow, hhigh⟩ := d.neighbours e
  have hcovers : d.covers ((d.num * powDen 10 e) / (d.den * powNum 10 e) + 1) e = true := by
    refine covers_of_lt hhigh ?_
    calc (((d.num * powDen 10 e) / (d.den * powNum 10 e) + 1 : Nat) : ℚ) * 10 ^ e
        = ((d.num * powDen 10 e) / (d.den * powNum 10 e) : Nat) * 10 ^ e + 10 ^ e := by
          push_cast
          ring
      _ < d.magnitude + 2 ^ d.exponent / 2 := by linarith
      _ = (d.mantissa + 1 / 2) * 2 ^ d.exponent := by
          rw [magnitude]
          ring
  simp only [candidate, hcovers]
  cases d.covers ((d.num * powDen 10 e) / (d.den * powNum 10 e)) e with
  | false => rfl
  | true => simp only; split_ifs <;> rfl

/-- The search ends with a number that reads back if the finest grid has a candidate. -/
theorem searchGrids_covers {fuel : Nat} {e : Int} (h : (d.candidate (e - fuel)).isSome = true) :
    d.covers (d.searchGrids fuel e).1 (d.searchGrids fuel e).2 = true := by
  induction fuel generalizing e with
  | zero =>
      obtain ⟨c, hc⟩ := Option.isSome_iff_exists.mp h
      have hcandidate : d.candidate e = some c := by simpa using hc
      rw [searchGrids, hcandidate]
      exact covers_of_candidate hcandidate
  | succ fuel ih =>
      rw [searchGrids]
      split
      · next c hc => exact covers_of_candidate hc
      · refine ih ?_
        rw [show e - 1 - (fuel : Int) = e - (fuel + 1 : Nat) by push_cast; ring]
        exact h

/-! ## Where the search begins -/

theorem ten_pow_le_two_pow : (10 : Nat) ^ 1233 ≤ 2 ^ 4096 := by decide +kernel

theorem two_pow_le_ten_pow : (2 : Nat) ^ 4096 ≤ 10 ^ 1234 := by decide +kernel

/-- The quotient 1233 / 4096 is so near to the logarithm of two that one less than the exponent that
it gives is not too high. -/
theorem ten_zpow_quotient_le {e : Int} (he : -4096 ≤ e) :
    (10 : ℚ) ^ (e * 1233 / 4096 - 1) ≤ 2 ^ e := by
  have hten : ((10 : ℚ) ^ 1233) ≤ 2 ^ 4096 := by exact_mod_cast ten_pow_le_two_pow
  have htwo : ((2 : ℚ) ^ 4096) ≤ 10 ^ 1234 := by exact_mod_cast two_pow_le_ten_pow
  have hscaled : (10 : ℚ) ^ (1233 * e - 4096) ≤ 2 ^ (4096 * e) := by
    rcases Int.le_total 0 e with hpos | hneg
    · obtain ⟨n, rfl⟩ := Int.eq_ofNat_of_zero_le hpos
      calc (10 : ℚ) ^ (1233 * (n : Int) - 4096)
          ≤ 10 ^ (1233 * (n : Int)) := zpow_le_zpow_right₀ (by norm_num) (by omega)
        _ = (10 ^ 1233) ^ n := by rw [zpow_mul]; rfl
        _ ≤ (2 ^ 4096) ^ n := pow_le_pow_left₀ (by positivity) hten n
        _ = 2 ^ (4096 * (n : Int)) := by rw [zpow_mul]; rfl
    · obtain ⟨n, hn⟩ := Int.eq_ofNat_of_zero_le (Int.neg_nonneg.mpr hneg)
      obtain rfl : e = -n := by omega
      calc (10 : ℚ) ^ (1233 * -(n : Int) - 4096)
          ≤ 10 ^ (-(1234 * (n : Int))) := zpow_le_zpow_right₀ (by norm_num) (by omega)
        _ = ((10 ^ 1234) ^ n)⁻¹ := by rw [zpow_neg, zpow_mul]; rfl
        _ ≤ ((2 ^ 4096) ^ n)⁻¹ :=
          inv_anti₀ (by positivity) (pow_le_pow_left₀ (by positivity) htwo n)
        _ = 2 ^ (4096 * -(n : Int)) := by rw [mul_neg, zpow_neg, zpow_mul]; rfl
  have hpow : ((10 : ℚ) ^ (e * 1233 / 4096 - 1)) ^ 4096 ≤ (2 ^ e) ^ 4096 := by
    have hexponent : (e * 1233 / 4096 - 1) * (4096 : Nat) ≤ 1233 * e - 4096 := by omega
    rw [← zpow_natCast, ← zpow_natCast, ← zpow_mul, ← zpow_mul,
      mul_comm (e : Int) (4096 : Nat)]
    exact (zpow_le_zpow_right₀ (by norm_num) hexponent).trans hscaled
  exact le_of_pow_le_pow_left₀ (by decide) (by positivity) hpow

theorem decimalExponent_le (h : d.IsFinite) (hd : d.mantissa ≠ 0) :
    (10 : ℚ) ^ d.decimalExponent ≤ d.magnitude := by
  have hreaches : ∀ k : Int, ratioLe (powNum 10 k) (powDen 10 k) d.num d.den = true →
      (10 : ℚ) ^ k ≤ d.magnitude := by
    intro k hk
    rw [ratioLe_iff (powDen_pos (by decide) k) d.den_pos, num_div_den,
      powNum_div_powDen (by decide)] at hk
    exact_mod_cast hk
  simp only [decimalExponent]
  split_ifs with hnext hguess
  · exact hreaches _ hnext
  · exact hreaches _ hguess
  · have hleast := h.least
    simp only [leastExponent] at hleast
    have hquotient := ten_zpow_quotient_le
      (by omega : -4096 ≤ (Nat.log2 d.mantissa : Int) + d.exponent)
    have hpow : (2 : ℚ) ^ Nat.log2 d.mantissa ≤ d.mantissa := by
      exact_mod_cast Nat.log2_self_le hd
    calc (10 : ℚ) ^ (((Nat.log2 d.mantissa : Int) + d.exponent) * 1233 / 4096 - 1)
        ≤ 2 ^ ((Nat.log2 d.mantissa : Int) + d.exponent) := hquotient
      _ = 2 ^ Nat.log2 d.mantissa * 2 ^ d.exponent := by
          rw [zpow_add₀ two_ne_zero, zpow_natCast]
      _ ≤ d.magnitude := by
          rw [magnitude]
          gcongr

/-- The finest grid is finer than half a unit of the last place. -/
theorem finest_lt (h : d.IsFinite) (hd : d.mantissa ≠ 0) :
    (10 : ℚ) ^ (d.decimalExponent - 17) < 2 ^ d.exponent / 2 := by
  have hle := decimalExponent_le h hd
  have hmantissa : (d.mantissa : ℚ) < 2 ^ 53 := by
    have hlt : (d.mantissa : ℚ) < (2 * leastMantissa : Nat) := by exact_mod_cast h.mantissa
    refine hlt.trans_eq ?_
    norm_num [leastMantissa]
  have hunit : (0 : ℚ) < 2 ^ d.exponent := by positivity
  calc (10 : ℚ) ^ (d.decimalExponent - 17) = 10 ^ d.decimalExponent / 10 ^ 17 := by
        rw [zpow_sub₀ (by norm_num)]
        norm_cast
    _ ≤ d.mantissa * 2 ^ d.exponent / 10 ^ 17 := by
        gcongr
        exact hle
    _ < 2 ^ 53 * 2 ^ d.exponent / 10 ^ 17 := by gcongr
    _ < 2 ^ d.exponent / 2 := by
        rw [div_lt_div_iff₀ (by norm_num) (by norm_num)]
        norm_num
        linarith

/-! ## The digits -/

/-- The search ends with a number other than zero that lies at most half a unit of the last place
beyond the magnitude. -/
theorem searchGrids_spec (h : d.IsFinite) (hd : d.mantissa ≠ 0) :
    (d.searchGrids 17 d.decimalExponent).1 ≠ 0 ∧
      ((d.searchGrids 17 d.decimalExponent).1 : ℚ) *
          10 ^ (d.searchGrids 17 d.decimalExponent).2 ≤
        (d.mantissa + 1 / 2) * 2 ^ d.exponent := by
  have hcovers := searchGrids_covers (isSome_candidate (finest_lt h hd))
  exact ⟨ne_zero_of_covers hd hcovers, covers_le hcovers⟩

end AlarmMonitor.Number.Double
