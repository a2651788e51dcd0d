import AlarmMonitor.Proofs.Json.RoundTrip
import AlarmMonitor.Proofs.Number.Grid
import AlarmMonitor.Proofs.Number.Quick
import Mathlib.Data.List.TakeWhile

/-!
# The texts of doubles

A double is written as a numeral, and the numeral is read as a number, perhaps another one: the
quick reading rounds more than once.  It does not fail, though.  In positional form there is no power
of ten to multiply by, and in the form with an exponent the roundings can be paid for, unless the
double is one of the greatest three; and these are read as well.

* `shortest_spec`: the digits that are written;
* `exists_positional`, `exists_scientific`: the numerals in which they are written;
* `isReadable_double`: they are read.
-/

set_option autoImplicit false

namespace AlarmMonitor.Number

/-! ## Digits -/

/-- Trimming takes zeros from the end. -/
theorem exists_trimZeros (ds : List Nat) :
    ∃ z, ds = Double.trimZeros ds ++ List.replicate z 0 := by
  have hzeros : ds.reverse.takeWhile (· == 0) =
      List.replicate (ds.reverse.takeWhile (· == 0)).length 0 := by
    refine List.eq_replicate_of_mem fun d hd => ?_
    simpa using List.mem_takeWhile_imp hd
  refine ⟨(ds.reverse.takeWhile (· == 0)).length, ?_⟩
  rw [← List.reverse_replicate, ← hzeros, Double.trimZeros, ← List.reverse_append,
    List.takeWhile_append_dropWhile, List.reverse_reverse]

theorem ofDigits_append_zeros (ds : List Nat) (z : Nat) :
    ofDigits (ds ++ List.replicate z 0) = ofDigits ds * 10 ^ z := by
  induction z with
  | zero => simp
  | succ z ih =>
      rw [List.replicate_succ', ← List.append_assoc, ofDigits_append_singleton, ih, pow_succ]
      ring

/-- The digits of a double other than zero, the first of which is no zero, lie at most half a unit of
the last place beyond its magnitude. -/
theorem Double.shortest_spec {d : Double} (h : d.IsFinite) (hd : d.mantissa ≠ 0) :
    ∃ (lead : Nat) (ds : List Nat) (x : Int), d.shortest = ⟨lead :: ds, x⟩ ∧ 1 ≤ lead ∧
      (∀ k ∈ lead :: ds, k < 10) ∧
      (ofDigitsFrom lead ds : ℚ) * 10 ^ (x - ds.length) ≤ (d.mantissa + 1 / 2) * 2 ^ d.exponent := by
  obtain ⟨hne, hle⟩ := searchGrids_spec h hd
  generalize hfound : d.searchGrids 17 d.decimalExponent = found at hne hle
  obtain ⟨c, e⟩ := found
  simp only at hne hle
  obtain ⟨z, hz⟩ := exists_trimZeros (digitsOf c)
  have hhead := head_digitsOf hne
  have hvalue := ofDigits_digitsOf c
  rw [hz, ofDigits_append_zeros] at hvalue
  obtain ⟨lead, ds, htrim⟩ : ∃ lead ds, trimZeros (digitsOf c) = lead :: ds := by
    refine List.exists_cons_of_ne_nil fun hnil => hne ?_
    rw [← hvalue, hnil]
    simp [ofDigits]
  rw [htrim] at hvalue
  rw [hz, htrim] at hhead
  have hsmall : ∀ k ∈ lead :: ds, k < 10 := by
    intro k hk
    refine lt_of_mem_digitsOf c k ?_
    rw [hz, htrim]
    exact List.mem_append_left _ hk
  have hlength : (digitsOf c).length = ds.length + 1 + z := by
    rw [hz, htrim, List.length_append, List.length_cons, List.length_replicate]
  refine ⟨lead, ds, e + (ds.length + z), ?_, ?_, hsmall, ?_⟩
  · have hzero : d.isZero = false := by simpa [isZero] using hd
    simp only [shortest, hzero, hfound, htrim, hlength]
    simp only [Bool.false_eq_true, if_false, Decimal.mk.injEq, true_and]
    omega
  · have hlead : lead ≠ 0 := by simpa using hhead
    omega
  · have hdigits : ofDigitsFrom lead ds = ofDigits (lead :: ds) := by simp [ofDigits, ofDigitsFrom]
    have hpow : (10 : ℚ) ^ (e + (ds.length + z) - ds.length : Int) = 10 ^ z * 10 ^ e := by
      rw [← zpow_natCast, ← zpow_add₀ (by norm_num)]
      congr 1
      omega
    rw [hpow, ← mul_assoc, hdigits]
    refine le_of_eq_of_le ?_ hle
    rw [← hvalue]
    push_cast
    rfl

/-! ## Numerals -/

/-- The single digit zero. -/
def Digits.zero : Digits := ⟨[0], by simp, by simp⟩

/-- Small digits, the first of which is given, are a row of digits. -/
def Digits.cons (lead : Nat) (ds : List Nat) (h : ∀ k ∈ lead :: ds, k < 10) : Digits :=
  ⟨lead :: ds, h, List.cons_ne_nil _ _⟩

/-- A row of digits that does not begin with zero has no leading zero. -/
theorem Digits.leading_cons {lead : Nat} (hlead : 1 ≤ lead) {ds : List Nat}
    (h : ∀ k ∈ lead :: ds, k < 10) :
    (cons lead ds h).values.head? = some 0 → (cons lead ds h).values = [0] := by
  intro hzero
  obtain rfl : lead = 0 := by simpa [cons] using hzero
  omega

/-- A text with a sign before it is the text of a numeral with that sign. -/
theorem Numeral.text_eq_of_body {w : Numeral} {body : List Char}
    (h : w.whole.text ++ w.tail = body) :
    w.text = if w.negative then '-' :: body else body := by
  rw [Numeral.text, h]
  cases w.negative <;> rfl

section Texts

variable {lead : Nat} {ds : List Nat} {x : Int}

/-- The positional form is a numeral without an exponent, and its whole part has at most 16 digits
if the exponent is at most 15. -/
theorem exists_positional (negative : Bool) (hlead : 1 ≤ lead) (hsmall : ∀ k ∈ lead :: ds, k < 10)
    (hx : x ≤ 15) :
    ∃ w : Numeral, w.negative = negative ∧ w.exponent = none ∧ w.whole.values.length ≤ 16 ∧
      w.whole.text ++ w.tail = Json.Number.doubleLayout.positionalText ⟨lead :: ds, x⟩ := by
  have hzeros : ∀ n, ∀ k ∈ List.replicate n 0, k < 10 := by
    intro n k hk
    rw [(List.mem_replicate.mp hk).2]
    decide
  by_cases hneg : x < 0
  · have hfraction : ∀ k ∈ List.replicate ((-x).toNat - 1) 0 ++ lead :: ds, k < 10 :=
      List.forall_mem_append.mpr ⟨hzeros _, hsmall⟩
    refine ⟨⟨negative, .zero, fun _ => rfl, some ⟨_, hfraction, by simp⟩, none⟩, rfl, rfl,
      by simp [Digits.zero], ?_⟩
    simp [Numeral.tail, Digits.text, Digits.zero, Layout.positionalText, hneg, Layout.digitChar]
  · by_cases hlength : ds.length + 1 ≤ x.toNat + 1
    · have hwhole : ∀ k ∈ lead :: (ds ++ List.replicate (x.toNat - ds.length) 0), k < 10 :=
        List.forall_mem_append.mpr ⟨hsmall, hzeros _⟩
      refine ⟨⟨negative, .cons _ _ hwhole, Digits.leading_cons hlead hwhole, some .zero, none⟩, rfl,
        rfl, ?_, ?_⟩
      · simp [Digits.cons]
        omega
      · simp [Numeral.tail, Digits.text, Digits.zero, Digits.cons, Layout.positionalText, hneg,
          hlength, Layout.digitChar, Json.Number.doubleLayout]
    · have hwhole : ∀ k ∈ lead :: ds.take x.toNat, k < 10 := by
        intro k hk
        refine hsmall k ?_
        rcases List.mem_cons.mp hk with rfl | hk
        · exact List.mem_cons_self
        · exact List.mem_cons_of_mem _ (List.mem_of_mem_take hk)
      have hfraction : ∀ k ∈ ds.drop x.toNat, k < 10 := fun k hk =>
        hsmall k (List.mem_cons_of_mem _ (List.mem_of_mem_drop hk))
      have hsome : ds.drop x.toNat ≠ [] := by
        rw [Ne, List.drop_eq_nil_iff]
        omega
      refine ⟨⟨negative, .cons _ _ hwhole, Digits.leading_cons hlead hwhole,
        some ⟨_, hfraction, hsome⟩, none⟩, rfl, rfl, ?_, ?_⟩
      · simp [Digits.cons]
        omega
      · simp [Numeral.tail, Digits.text, Digits.cons, Layout.positionalText, hneg, hlength,
          List.map_take, List.map_drop]

/-- The form with an exponent is a numeral with one whole digit and that exponent. -/
theorem exists_scientific (negative : Bool) (hlead : 1 ≤ lead) (hsmall : ∀ k ∈ lead :: ds, k < 10) :
    ∃ w : Numeral, w.negative = negative ∧ w.literal.whole = [lead] ∧
      w.literal.fraction.getD [] = ds ∧
      w.literal.exponent = some (decide (x < 0), Double.digitsOf x.natAbs) ∧
      w.whole.text ++ w.tail = Json.Number.doubleLayout.scientificText ⟨lead :: ds, x⟩ := by
  have hwhole : ∀ k ∈ [lead], k < 10 := fun k hk => hsmall k (by simp_all)
  have hexponent : Exponent.text ⟨false, some (decide (x < 0)), .ofNat x.natAbs⟩ =
      'e' :: ((if x < 0 then ['-'] else ['+']) ++ Nat.toDigits 10 x.natAbs) := by
    by_cases hneg : x < 0 <;> simp [Exponent.text, Digits.text_ofNat, hneg]
  cases ds with
  | nil =>
      refine ⟨⟨negative, .cons _ _ hwhole, Digits.leading_cons hlead hwhole, none,
        some ⟨false, some (decide (x < 0)), .ofNat x.natAbs⟩⟩, rfl, rfl, rfl,
        by simp [Numeral.literal, Digits.ofNat], ?_⟩
      simp [Numeral.tail, hexponent, Digits.cons, Digits.text, Layout.scientificText,
        Json.Number.doubleLayout]
  | cons k rest =>
      have hfraction : ∀ i ∈ k :: rest, i < 10 := fun i hi => hsmall i (by simp_all)
      refine ⟨⟨negative, .cons _ _ hwhole, Digits.leading_cons hlead hwhole,
        some (.cons _ _ hfraction), some ⟨false, some (decide (x < 0)), .ofNat x.natAbs⟩⟩, rfl, rfl,
        rfl, by simp [Numeral.literal, Digits.ofNat], ?_⟩
      simp [Numeral.tail, hexponent, Digits.cons, Digits.text, Layout.scientificText,
        Json.Number.doubleLayout]

end Texts

/-! ## Reading -/

/-- The doubles whose mantissa is one of the greatest three, and the exponent the greatest. -/
def Double.IsGreatest (d : Double) : Prop :=
  d.exponent = greatestExponent ∧ 2 * leastMantissa ≤ d.mantissa + 3

theorem Double.mantissa_le {d : Double} {k : Nat} (h : d.mantissa + k ≤ 2 * leastMantissa) :
    (d.mantissa : ℚ) ≤ 2 ^ 53 - k := by
  have hcast : ((d.mantissa + k : Nat) : ℚ) ≤ (2 ^ 53 : Nat) := by
    refine Nat.cast_le.mpr (h.trans_eq ?_)
    decide
  push_cast at hcast
  linarith

/-- Half a unit and two roundings, in units of the last place of the greatest exponent, halved. -/
theorem two_roundings_lt {m : ℚ} (h : m ≤ 2 ^ 53 - (4 : Nat)) :
    (m + 1 / 2) * 2 * (1 + 1 / 2 ^ 53) ^ 2 < 2 ^ 54 - 1 := by
  norm_num at h ⊢
  linarith

/-- The same in units of the last place of any other exponent. -/
theorem two_roundings_lt_of_le {m : ℚ} (h : m ≤ 2 ^ 53 - (1 : Nat)) :
    (m + 1 / 2) * (1 + 1 / 2 ^ 53) ^ 2 < 2 ^ 54 - 1 := by
  norm_num at h ⊢
  linarith

/-- Half a unit of the last place and two roundings can be paid for, except by the greatest
doubles. -/
theorem Double.payable {d : Double} (h : d.IsFinite) (hgreatest : ¬ d.IsGreatest) :
    ((d.mantissa : ℚ) + 1 / 2) * 2 ^ d.exponent * (1 + 1 / 2 ^ 53) ^ 2 < overflowBound := by
  have hunit : (0 : ℚ) < 2 ^ (970 : Int) := by positivity
  by_cases hexponent : d.exponent = greatestExponent
  · have hmantissa : (d.mantissa : ℚ) ≤ 2 ^ 53 - (4 : Nat) := by
      refine mantissa_le (Nat.le_of_not_lt fun hlt => hgreatest ⟨hexponent, ?_⟩)
      omega
    calc ((d.mantissa : ℚ) + 1 / 2) * 2 ^ d.exponent * (1 + 1 / 2 ^ 53) ^ 2
        = ((d.mantissa : ℚ) + 1 / 2) * 2 * (1 + 1 / 2 ^ 53) ^ 2 * 2 ^ (970 : Int) := by
          rw [hexponent, greatestExponent, zpow_eq_mul 971 1 970 (by decide), zpow_one]
          ring
      _ < overflowBound := mul_lt_mul_of_pos_right (two_roundings_lt hmantissa) hunit
  · have hmantissa : (d.mantissa : ℚ) ≤ 2 ^ 53 - (1 : Nat) := mantissa_le h.mantissa
    have hle : (2 : ℚ) ^ d.exponent ≤ 2 ^ (970 : Int) := by
      have hbound := h.greatest
      simp only [greatestExponent] at hbound hexponent
      exact zpow_le_zpow_right₀ one_le_two (by omega)
    rw [overflowBound]
    generalize (2 : ℚ) ^ (970 : Int) = unit at hunit hle ⊢
    calc ((d.mantissa : ℚ) + 1 / 2) * 2 ^ d.exponent * (1 + 1 / 2 ^ 53) ^ 2
        = ((d.mantissa : ℚ) + 1 / 2) * (1 + 1 / 2 ^ 53) ^ 2 * 2 ^ d.exponent := by ring
      _ ≤ ((d.mantissa : ℚ) + 1 / 2) * (1 + 1 / 2 ^ 53) ^ 2 * unit := by gcongr
      _ < (2 ^ 54 - 1) * unit :=
          mul_lt_mul_of_pos_right (two_roundings_lt_of_le hmantissa) hunit

/-- The texts of the greatest doubles are read. -/
theorem isSome_quick_greatest : ∀ (negative : Bool), ∀ k < (3 : Nat),
    ((Literal.ofStrict (Json.Number.doubleLayout.text
      ⟨negative, 2 * Double.leastMantissa - 1 - k, Double.greatestExponent⟩)).bind
        Literal.quick).isSome = true := by
  decide +kernel

end AlarmMonitor.Number

namespace AlarmMonitor.Json.Number

open AlarmMonitor.Number

theorem isSome_ofLiteral {l : Literal} (h : l.quick.isSome = true) :
    (ofLiteral l).isSome = true := by
  have either : ∀ (c : Bool) (n : Number) (o : Option Number), o.isSome = true →
      (if c then some n else o).isSome = true := by
    intro c n o ho
    cases c <;> simp [ho]
  exact either _ _ _ (by rw [Option.isSome_map]; exact h)

/-- The text of a double in positional form, or in the form with an exponent. -/
theorem text_double {d : Double} {ds : List Nat} {x : Int} (h : d.shortest = ⟨ds, x⟩) :
    doubleLayout.text d =
      if d.negative then
        '-' :: (if -5 ≤ x ∧ x ≤ 15 then doubleLayout.positionalText ⟨ds, x⟩
          else doubleLayout.scientificText ⟨ds, x⟩)
      else if -5 ≤ x ∧ x ≤ 15 then doubleLayout.positionalText ⟨ds, x⟩
        else doubleLayout.scientificText ⟨ds, x⟩ := by
  have hpositional : doubleLayout.positional = some (-5, 15) := rfl
  simp only [Layout.text, h, hpositional, Bool.and_eq_true, decide_eq_true_eq]

theorem isSome_quick_of_greatest {d : Double} (h : d.IsFinite) (hgreatest : d.IsGreatest)
    {w : Numeral} (htext : w.text = doubleLayout.text d) : w.literal.quick.isSome = true := by
  obtain ⟨hexponent, hmantissa⟩ := hgreatest
  have hlt := h.mantissa
  have hcheck := isSome_quick_greatest d.negative (2 * Double.leastMantissa - 1 - d.mantissa)
    (by omega)
  rw [show 2 * Double.leastMantissa - 1 - (2 * Double.leastMantissa - 1 - d.mantissa) =
    d.mantissa by omega, ← hexponent] at hcheck
  have hread := w.ofStrict_text
  rw [htext] at hread
  rw [hread] at hcheck
  exact hcheck

/-- Every double is written so that it can be read. -/
theorem isReadable_double {d : Double} (h : d.IsFinite) : (double d).IsReadable := by
  by_cases hzero : d.mantissa = 0
  · have hshortest : d.shortest = ⟨[0], 0⟩ := by simp [Double.shortest, Double.isZero, hzero]
    have hwhole : ofDigits Digits.zero.values ≤ maxWord := by decide
    have hzeros : Numeral.text ⟨d.negative, .zero, fun _ => rfl, some .zero, none⟩ =
        doubleLayout.text d := by
      rw [text_double hshortest]
      exact Numeral.text_eq_of_body rfl
    exact ⟨_, hzeros, isSome_ofLiteral (Literal.isSome_quick_of_whole rfl hwhole)⟩
  obtain ⟨lead, ds, x, hshortest, hlead, hsmall, hle⟩ := Double.shortest_spec h hzero
  by_cases hx : -5 ≤ x ∧ x ≤ 15
  · obtain ⟨w, hnegative, hexponent, hlength, hbody⟩ :=
      exists_positional d.negative hlead hsmall hx.2
    have htext : w.text = doubleLayout.text d := by
      rw [Numeral.text_eq_of_body hbody, hnegative, text_double hshortest, if_pos hx]
    refine ⟨w, htext, isSome_ofLiteral (Literal.isSome_quick_of_whole ?_ ?_)⟩
    · simp [Numeral.literal, hexponent]
    · have hlt := ofDigits_lt w.whole.small
      have hpow : 10 ^ w.whole.values.length ≤ 10 ^ 16 := Nat.pow_le_pow_right (by decide) hlength
      exact (hlt.trans_le hpow).le.trans (by decide)
  · obtain ⟨w, hnegative, hwhole, hfraction, hexponent, hbody⟩ :=
      exists_scientific d.negative hlead hsmall
    have htext : w.text = doubleLayout.text d := by
      rw [Numeral.text_eq_of_body hbody, hnegative, text_double hshortest, if_neg hx]
    refine ⟨w, htext, isSome_ofLiteral ?_⟩
    by_cases hgreatest : d.IsGreatest
    · exact isSome_quick_of_greatest h hgreatest htext
    · have hvalue : w.literal.exponentValue = x := by
        simp only [Literal.exponentValue, hexponent, ofDigits_digitsOf, decide_eq_true_eq]
        split_ifs <;> omega
      refine Literal.isSome_quick_of_digit hwhole hfraction hexponent hlead (hsmall lead (by simp))
        (lt_of_le_of_lt ?_ (Double.payable h hgreatest))
      rw [hvalue]
      gcongr

end AlarmMonitor.Json.Number
