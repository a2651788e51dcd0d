import AlarmMonitor.Number.Literal
import AlarmMonitor.Proofs.Number.Rounding

/-!
# What the quick reading reads

The quick reading fails only beyond the largest double.  It never fails if the power of ten is one,
or divides; if it multiplies, the two roundings of its factors and the one of the product have to be
paid for.

* `accumulate_spec`: the digits that are kept, and what is left out;
* `isSome_scale_of_nonpos`, `isSome_scale_of_lt`: scales that do not fail;
* `isSome_quick_of_whole`, `isSome_quick_of_digit`: literals that are read.
-/

set_option autoImplicit false

namespace AlarmMonitor.Number

open Double

/-! ## Digits -/

/-- Digits behind those of a natural. -/
def ofDigitsFrom (n : Nat) (ds : List Nat) : Nat := ds.foldl (fun n d => n * 10 + d) n

theorem ofDigitsFrom_cons (n d : Nat) (ds : List Nat) :
    ofDigitsFrom n (d :: ds) = ofDigitsFrom (n * 10 + d) ds := rfl

/-- Digits behind others make a natural no smaller than zeros in their places. -/
theorem mul_pow_le_ofDigitsFrom (n : Nat) (ds : List Nat) :
    n * 10 ^ ds.length ≤ ofDigitsFrom n ds := by
  induction ds generalizing n with
  | nil => simp [ofDigitsFrom]
  | cons d ds ih =>
      rw [ofDigitsFrom_cons, List.length_cons, pow_succ']
      refine le_trans ?_ (ih (n * 10 + d))
      rw [← Nat.mul_assoc]
      exact Nat.mul_le_mul_right _ (Nat.le_add_right _ _)

theorem le_ofDigitsFrom (n : Nat) (ds : List Nat) : n ≤ ofDigitsFrom n ds :=
  (Nat.le_mul_of_pos_right n (Nat.pow_pos (by decide))).trans (mul_pow_le_ofDigitsFrom n ds)

theorem ofDigits_lt {ds : List Nat} (h : ∀ d ∈ ds, d < 10) : ofDigits ds < 10 ^ ds.length := by
  have key : ∀ n, ofDigitsFrom n ds < (n + 1) * 10 ^ ds.length := by
    induction ds with
    | nil => simp [ofDigitsFrom]
    | cons d ds ih =>
        intro n
        have hd : d < 10 := h d (by simp)
        have hrest := ih (fun e he => h e (List.mem_cons_of_mem _ he)) (n * 10 + d)
        rw [ofDigitsFrom_cons, List.length_cons, pow_succ', ← Nat.mul_assoc]
        exact hrest.trans_le (Nat.mul_le_mul_right _ (by omega))
  have hzero := key 0
  rw [Nat.zero_add, Nat.one_mul] at hzero
  exact hzero

namespace Literal

/-- The significand fits into a word, and with zeros in the places of the digits that were left out
it is no greater than the digits. -/
theorem accumulate_spec {sig : Nat} (hsig : sig ≤ maxWord) (ds : List Nat) :
    (accumulate sig ds).1 ≤ maxWord ∧ sig ≤ (accumulate sig ds).1 ∧
      (accumulate sig ds).2.1 + (accumulate sig ds).2.2 = ds.length ∧
      (accumulate sig ds).1 * 10 ^ (accumulate sig ds).2.2 ≤ ofDigitsFrom sig ds := by
  induction ds generalizing sig with
  | nil => simp [accumulate, ofDigitsFrom, hsig]
  | cons d ds ih =>
      rw [accumulate]
      split
      · refine ⟨hsig, le_refl _, by simp, ?_⟩
        exact mul_pow_le_ofDigitsFrom sig (d :: ds)
      · next hfits =>
          have hrest := ih (Nat.not_lt.mp hfits)
          generalize accumulate (sig * 10 + d) ds = kept at hrest ⊢
          obtain ⟨s, taken, dropped⟩ := kept
          obtain ⟨hword, hle, hlength, hvalue⟩ := hrest
          have hlength' : taken + dropped = ds.length := hlength
          have hle' : sig * 10 + d ≤ s := hle
          refine ⟨hword, ?_, ?_, hvalue⟩
          · show sig ≤ s
            omega
          · show taken + 1 + dropped = ds.length + 1
            omega

/-- Digits that fit into a word are kept, all of them. -/
theorem accumulate_of_le {sig : Nat} {ds : List Nat} (h : ofDigitsFrom sig ds ≤ maxWord) :
    accumulate sig ds = (ofDigitsFrom sig ds, ds.length, 0) := by
  induction ds generalizing sig with
  | nil => rfl
  | cons d ds ih =>
      rw [ofDigitsFrom_cons] at h ⊢
      have hfits : sig * 10 + d ≤ maxWord := (le_ofDigitsFrom _ ds).trans h
      rw [accumulate, if_neg (Nat.not_lt.mpr hfits), ih h]
      rfl

/-! ## Scales -/

/-- A bound for what is divided, far below the largest double. -/
def scaleBound : ℚ := 2 ^ (65 : Int)

theorem two_mul_scaleBound_lt : 2 * scaleBound < overflowBound := by
  have hpow : (2 : ℚ) ^ (66 : Int) ≤ 2 ^ (970 : Int) := zpow_le_zpow_right₀ one_le_two (by decide)
  have hunit : (0 : ℚ) < 2 ^ (970 : Int) := by positivity
  calc 2 * scaleBound = 2 ^ (66 : Int) := by norm_num [scaleBound]
    _ ≤ 2 ^ (970 : Int) := hpow
    _ = 1 * 2 ^ (970 : Int) := (one_mul _).symm
    _ < overflowBound := mul_lt_mul_of_pos_right (by norm_num) hunit

theorem magnitude_nonneg (d : Double) : 0 ≤ d.magnitude := by
  rw [magnitude]
  positivity

theorem exists_ofNat {sig : Nat} (h : sig ≤ maxWord) :
    ∃ f, ofNat sig = some f ∧ f.magnitude ≤ scaleBound ∧
      (1 ≤ sig → f.magnitude ≤ sig * (1 + 1 / 2 ^ 53)) := by
  have hword : (sig : ℚ) ≤ 2 ^ (64 : Int) := by
    have hle : sig ≤ 2 ^ 64 := by
      simp only [maxWord, wordBound] at h
      omega
    exact_mod_cast hle
  have htwice : 2 * (sig : ℚ) ≤ scaleBound := by
    rw [scaleBound, zpow_eq_mul 65 1 64 (by decide), zpow_one]
    linarith
  have hsmall : ((sig : Nat) : ℚ) / (1 : Nat) < overflowBound := by
    have hbound := two_mul_scaleBound_lt
    have hnonneg : (0 : ℚ) ≤ sig := by positivity
    rw [Nat.cast_one, div_one]
    linarith
  obtain ⟨f, hf, hle, herror⟩ := exists_nearest false (by decide) hsmall
  rw [Nat.cast_one, div_one] at hle herror
  exact ⟨f, hf, hle.trans htwice, fun hone => herror (by exact_mod_cast hone)⟩

/-- The powers of ten up to the greatest one are doubles, not below one, and the greatest is not
below two. -/
theorem powers_check : ∀ k < (309 : Nat), (powerOfTen k).any (fun p =>
    p.den ≤ p.num && (k != 308 || 2 * p.den ≤ p.num)) = true := by
  decide +kernel

theorem cast_pow (base k : Nat) : ((base ^ k : Nat) : ℚ) = (base : ℚ) ^ (k : Int) := by
  rw [Nat.cast_pow, zpow_natCast]

theorem overflowBound_eq : overflowBound = ((2 ^ 54 - 1) * 2 ^ 970 : Nat) := by
  rw [Nat.cast_mul, cast_pow, overflowBound]
  simp only [Nat.cast_ofNat]
  norm_num

theorem ten_pow_lt_overflowBound : (10 : ℚ) ^ (308 : Int) < overflowBound := by
  have hnat : (10 : Nat) ^ 308 < (2 ^ 54 - 1) * 2 ^ 970 := by decide +kernel
  have hcast : ((10 ^ 308 : Nat) : ℚ) < ((2 ^ 54 - 1) * 2 ^ 970 : Nat) := Nat.cast_lt.mpr hnat
  rw [← overflowBound_eq, cast_pow] at hcast
  simpa only [Nat.cast_ofNat] using hcast

theorem overflowBound_lt_ten_pow : overflowBound < 10 ^ (309 : Int) := by
  have hnat : (2 ^ 54 - 1) * 2 ^ 970 < (10 : Nat) ^ 309 := by decide +kernel
  have hcast : (((2 ^ 54 - 1) * 2 ^ 970 : Nat) : ℚ) < (10 ^ 309 : Nat) := Nat.cast_lt.mpr hnat
  rw [← overflowBound_eq, cast_pow] at hcast
  simpa only [Nat.cast_ofNat] using hcast

theorem powerOfTen_eq {k : Nat} (h : k ≤ 308) :
    powerOfTen k = Double.nearest false (1 * powNum 10 k) (powDen 10 k) := by
  have hlog : Nat.log2 1 = 0 := by decide
  rw [powerOfTen, ofDecimal, if_neg (by decide), hlog, if_neg (by omega), if_neg (by omega)]

theorem exists_powerOfTen {k : Nat} (h : k ≤ 308) :
    ∃ p, powerOfTen k = some p ∧ 1 ≤ p.magnitude ∧ (k = 308 → 2 ≤ p.magnitude) ∧
      p.magnitude ≤ 10 ^ (k : Int) * (1 + 1 / 2 ^ 53) := by
  have hratio : ((1 * powNum 10 k : Nat) : ℚ) / powDen 10 k = 10 ^ (k : Int) := by
    have hpow := powNum_div_powDen (by decide : 0 < 10) (k : Int)
    rw [Nat.one_mul]
    exact_mod_cast hpow
  have hone : (1 : ℚ) ≤ 10 ^ (k : Int) := one_le_zpow₀ (by norm_num) (by omega)
  have hsmall : ((1 * powNum 10 k : Nat) : ℚ) / powDen 10 k < overflowBound := by
    rw [hratio]
    exact (zpow_le_zpow_right₀ (by norm_num) (by omega)).trans_lt ten_pow_lt_overflowBound
  obtain ⟨p, hp, -, herror⟩ := exists_nearest false (powDen_pos (by decide) _) hsmall
  rw [hratio] at herror
  have hcheck := powers_check k (by omega)
  rw [powerOfTen_eq h, hp, Option.any_some, Bool.and_eq_true, Bool.or_eq_true, bne_iff_ne,
    decide_eq_true_eq, decide_eq_true_eq] at hcheck
  have hden : (0 : ℚ) < p.den := by exact_mod_cast p.den_pos
  refine ⟨p, (powerOfTen_eq h).trans hp, ?_, ?_, herror hone⟩
  · rw [← num_div_den, one_le_div hden]
    exact_mod_cast hcheck.1
  · intro hk
    rw [← num_div_den, le_div_iff₀ hden]
    exact_mod_cast hcheck.2.resolve_left (not_not.mpr hk)

theorem exists_div {f p : Double} (hp : 1 ≤ p.magnitude) (hf : f.magnitude ≤ scaleBound) :
    ∃ r, f.div p = some r ∧ r.magnitude ≤ 2 * (f.magnitude / p.magnitude) := by
  have hnum : 0 < p.num := by
    by_contra hzero
    have hmagnitude := num_div_den p
    rw [Nat.eq_zero_of_not_pos hzero, Nat.cast_zero, zero_div] at hmagnitude
    linarith
  have hratio : ((f.num * p.den : Nat) : ℚ) / (f.den * p.num : Nat) =
      f.magnitude / p.magnitude := by
    rw [← num_div_den, ← num_div_den]
    push_cast
    rw [div_div_div_eq]
  have hsmall : ((f.num * p.den : Nat) : ℚ) / (f.den * p.num : Nat) < overflowBound := by
    have hle := div_le_self (magnitude_nonneg f) hp
    have hbound := two_mul_scaleBound_lt
    have hnonneg := magnitude_nonneg f
    rw [hratio]
    linarith
  obtain ⟨r, hr, hle, -⟩ := exists_nearest (f.negative != p.negative)
    (Nat.mul_pos f.den_pos hnum) hsmall
  exact ⟨r, hr, hratio ▸ hle⟩

theorem isSome_mul {f p : Double} (h : f.magnitude * p.magnitude < overflowBound) :
    (f.mul p).isSome = true := by
  have hratio : ((f.num * p.num : Nat) : ℚ) / (f.den * p.den : Nat) =
      f.magnitude * p.magnitude := by
    rw [← num_div_den, ← num_div_den]
    push_cast
    rw [div_mul_div_comm]
  obtain ⟨r, hr, -⟩ := exists_nearest (f.negative != p.negative)
    (Nat.mul_pos f.den_pos p.den_pos) (hratio ▸ h)
  rw [mul, hr]
  rfl

/-- Dividing by powers of ten never fails. -/
theorem isSome_scaleDown {fuel n : Nat} {f : Double} (hn : n ≤ fuel)
    (hf : f.magnitude ≤ scaleBound) : (scaleDown fuel f n).isSome = true := by
  have last : ∀ (f : Double) (n : Nat), f.magnitude ≤ scaleBound → n ≤ 308 →
      ((powerOfTen n).bind fun p => f.div p).isSome = true := by
    intro f n hf hn
    obtain ⟨p, hp, hone, -⟩ := exists_powerOfTen hn
    obtain ⟨r, hr, -⟩ := exists_div hone hf
    simp [hp, hr]
  induction fuel generalizing n f with
  | zero => exact last f n hf (by omega)
  | succ fuel ih =>
      rw [scaleDown]
      split_ifs with hsmall hzero
      · exact last f n hf hsmall
      · rfl
      · obtain ⟨p, hp, hone, htwo, -⟩ := exists_powerOfTen (le_refl 308)
        obtain ⟨r, hr, hle⟩ := exists_div hone hf
        -- the divisor makes up for the rounding
        have hr' : r.magnitude ≤ f.magnitude := by
          refine hle.trans ?_
          rw [← mul_div_assoc, div_le_iff₀ (by linarith), mul_comm]
          exact mul_le_mul_of_nonneg_left (htwo rfl) (magnitude_nonneg f)
        simpa [hp, hr] using ih (by omega) (hr'.trans hf)

/-- A significand is scaled by every power of ten that is not above one. -/
theorem isSome_scale_of_nonpos {sig : Nat} (hsig : sig ≤ maxWord) {k : Int} (hk : k ≤ 0) :
    (scale sig k).isSome = true := by
  obtain ⟨f, hf, hbound, -⟩ := exists_ofNat hsig
  rw [scale, hf]
  simp only [Option.bind_eq_bind, Option.bind_some]
  by_cases hneg : k < 0
  · rw [if_pos hneg]
    exact isSome_scaleDown (le_refl _) hbound
  · obtain rfl : k = 0 := by omega
    obtain ⟨p, hp, -, -, herror⟩ := exists_powerOfTen (show (0 : Int).toNat ≤ 308 by decide)
    have hproduct : f.magnitude * p.magnitude < overflowBound := by
      have htwo : p.magnitude ≤ 2 := by
        refine herror.trans ?_
        norm_num
      have hle : f.magnitude * p.magnitude ≤ scaleBound * 2 :=
        mul_le_mul hbound htwo (magnitude_nonneg p) (by rw [scaleBound]; positivity)
      have hlt := two_mul_scaleBound_lt
      linarith
    rw [if_neg hneg, if_pos (by decide), hp]
    exact isSome_mul hproduct

/-- A significand is scaled by a power of ten if the roundings of both can be paid for. -/
theorem isSome_scale_of_lt {sig : Nat} (hsig : sig ≤ maxWord) (hone : 1 ≤ sig) {k : Int}
    (hk : 0 ≤ k) (h : (sig : ℚ) * 10 ^ k * (1 + 1 / 2 ^ 53) ^ 2 < overflowBound) :
    (scale sig k).isSome = true := by
  have hone' : (1 : ℚ) ≤ sig := by exact_mod_cast hone
  have hten : (0 : ℚ) < 10 ^ k := by positivity
  have hfits : k ≤ 308 := by
    by_contra hlarge
    have hpow : (10 : ℚ) ^ (309 : Int) ≤ 10 ^ k := zpow_le_zpow_right₀ (by norm_num) (by omega)
    have hle : (10 : ℚ) ^ k ≤ sig * 10 ^ k * (1 + 1 / 2 ^ 53) ^ 2 := by
      calc (10 : ℚ) ^ k = 1 * 10 ^ k * 1 := by ring
        _ ≤ sig * 10 ^ k * (1 + 1 / 2 ^ 53) ^ 2 := by
            gcongr
            norm_num
    exact absurd (overflowBound_lt_ten_pow.trans_le (hpow.trans hle)) (not_lt.mpr h.le)
  obtain ⟨f, hf, -, herror⟩ := exists_ofNat hsig
  obtain ⟨p, hp, -, -, herror'⟩ := exists_powerOfTen (show k.toNat ≤ 308 by omega)
  rw [Int.toNat_of_nonneg hk] at herror'
  have hproduct : f.magnitude * p.magnitude < overflowBound := by
    refine lt_of_le_of_lt ?_ h
    calc f.magnitude * p.magnitude
        ≤ sig * (1 + 1 / 2 ^ 53) * (10 ^ k * (1 + 1 / 2 ^ 53)) :=
          mul_le_mul (herror hone) herror' (magnitude_nonneg p) (by positivity)
      _ = sig * 10 ^ k * (1 + 1 / 2 ^ 53) ^ 2 := by ring
  rw [scale, hf]
  simp only [Option.bind_eq_bind, Option.bind_some, if_neg (not_lt.mpr hk), if_pos hfits, hp]
  exact isSome_mul hproduct

/-! ## Literals -/

/-- A literal without an exponent is read if its whole part fits into a word. -/
theorem isSome_quick_of_whole {l : Literal} (hexponent : l.exponent = none)
    (hwhole : ofDigits l.whole ≤ maxWord) : l.quick.isSome = true := by
  have hkept : accumulate 0 l.whole = (ofDigits l.whole, l.whole.length, 0) :=
    accumulate_of_le hwhole
  have hfraction := (accumulate_spec hwhole (l.fraction.getD [])).1
  rw [quick, hkept, hexponent]
  simp only [Option.isSome_map]
  exact isSome_scale_of_nonpos hfraction (by omega)

section Digits

variable {d : Nat} {ds : List Nat} {e : Int}

/-- The digits that are kept are scaled by what is left of the exponent, if the roundings can be
paid for. -/
theorem isSome_scale_of_digits (hd : d ≤ maxWord) (hpos : 1 ≤ d)
    (h : (ofDigitsFrom d ds : ℚ) * 10 ^ (e - ds.length) * (1 + 1 / 2 ^ 53) ^ 2 < overflowBound) :
    (scale (accumulate d ds).1 (e - (accumulate d ds).2.1)).isSome = true := by
  have hspec := accumulate_spec hd ds
  generalize accumulate d ds = kept at hspec ⊢
  obtain ⟨sig, taken, dropped⟩ := kept
  obtain ⟨hword, hle, hlength, hvalue⟩ := hspec
  simp only at hword hle hlength hvalue ⊢
  by_cases hneg : e - taken ≤ 0
  · exact isSome_scale_of_nonpos hword hneg
  · refine isSome_scale_of_lt hword (by omega) (by omega) (lt_of_le_of_lt ?_ h)
    have hsplit : (10 : ℚ) ^ (e - taken) = 10 ^ dropped * 10 ^ (e - ds.length) := by
      rw [← zpow_natCast, ← zpow_add₀ (by norm_num)]
      congr 1
      omega
    have hvalue' : (sig : ℚ) * 10 ^ dropped ≤ ofDigitsFrom d ds := by exact_mod_cast hvalue
    rw [hsplit, ← mul_assoc]
    gcongr

/-- The exponent of what is no greater than a double is not out of range. -/
theorem exponent_lt_of_digits (hpos : 1 ≤ d)
    (h : (ofDigitsFrom d ds : ℚ) * 10 ^ (e - ds.length) * (1 + 1 / 2 ^ 53) ^ 2 < overflowBound) :
    e < 309 := by
  by_contra hlarge
  have hpow : (10 : ℚ) ^ (309 : Int) ≤ 10 ^ e := zpow_le_zpow_right₀ (by norm_num) (by omega)
  have hdigits : (10 : ℚ) ^ ds.length ≤ ofDigitsFrom d ds := by
    have hle := (Nat.mul_le_mul_right (10 ^ ds.length) hpos).trans (mul_pow_le_ofDigitsFrom d ds)
    rw [Nat.one_mul] at hle
    exact_mod_cast hle
  have hle : (10 : ℚ) ^ e ≤
      (ofDigitsFrom d ds : ℚ) * 10 ^ (e - ds.length) * (1 + 1 / 2 ^ 53) ^ 2 := by
    calc (10 : ℚ) ^ e = 10 ^ ds.length * 10 ^ (e - ds.length) * 1 := by
          rw [← zpow_natCast, ← zpow_add₀ (by norm_num), mul_one]
          congr 1
          omega
      _ ≤ _ := by
          gcongr
          norm_num
  exact absurd (overflowBound_lt_ten_pow.trans_le (hpow.trans hle)) (not_lt.mpr h.le)

/-- A literal with one whole digit and an exponent is read if the roundings can be paid for. -/
theorem isSome_quick_of_digit {l : Literal} {negative : Bool} {es : List Nat}
    (hwhole : l.whole = [d]) (hfraction : l.fraction.getD [] = ds)
    (hexponent : l.exponent = some (negative, es)) (hpos : 1 ≤ d) (hdigit : d < 10)
    (h : (ofDigitsFrom d ds : ℚ) * 10 ^ (l.exponentValue - ds.length) * (1 + 1 / 2 ^ 53) ^ 2 <
      overflowBound) : l.quick.isSome = true := by
  have hd : d ≤ maxWord := hdigit.le.trans (by decide)
  have hkept : accumulate 0 l.whole = (d, 1, 0) := by
    have hall : accumulate 0 [d] = (0 * 10 + d, 1, 0) :=
      accumulate_of_le (by simpa [ofDigitsFrom] using hd)
    rw [hwhole, hall, Nat.zero_mul, Nat.zero_add]
  have hscale := isSome_scale_of_digits hd hpos h
  have hrange := exponent_lt_of_digits hpos h
  have hvalue : l.exponentValue = if negative then -(ofDigits es : Int) else ofDigits es := by
    simp only [exponentValue, hexponent]
  rw [hvalue] at hscale hrange
  rw [quick, hkept, hfraction]
  simp only [hexponent, Option.isSome_map]
  cases negative with
  | false =>
      simp only [Bool.false_eq_true, if_false] at hscale hrange ⊢
      rw [if_neg (by simp only [maxExponent]; omega), Int.add_comm, Nat.cast_zero, zero_sub,
        ← sub_eq_add_neg]
      exact hscale
  | true =>
      simp only [if_true] at hscale ⊢
      by_cases hout : maxExponent < ofDigits es
      · rw [if_pos hout]
        rfl
      · rw [if_neg hout, Nat.cast_zero, zero_sub, Int.sub_eq_add_neg, Int.add_comm,
          ← Int.sub_eq_add_neg]
        exact hscale

end Digits

end Literal

end AlarmMonitor.Number
