import AlarmMonitor.Number.Literal
import AlarmMonitor.Number.Shortest
import AlarmMonitor.Proofs.Text.Split
import Mathlib.Data.List.Induction

/-!
# Rows of digits

What the written forms of a number have in common: rows of digits, signs, exponents, and what is
read of them.

* `Digits`, `rowText`: rows of digits, which may be empty in a `rowText`;
* `digitsOf_induction`: the digits of a natural, one after the other;
* `digitsOf_ofDigits`: they are the only ones without a leading zero;
* `exponentSign_signText`, `exists_of_exponentSign`: the sign at the front of a text;
* `readUnsigned_text`: what is written without a sign is read as its literal;
* `exists_of_readUnsigned`: nothing else is read.
-/

set_option autoImplicit false

namespace AlarmMonitor.Number

/-! ## Digits -/

theorem isDigit_digitChar {d : Nat} (h : d < 10) : (Layout.digitChar d).isDigit = true := by
  have all : ∀ d < 10, (Layout.digitChar d).isDigit = true := by decide
  exact all d h

theorem digitValue_digitChar {d : Nat} (h : d < 10) : digitValue (Layout.digitChar d) = d := by
  have all : ∀ d < 10, digitValue (Layout.digitChar d) = d := by decide
  exact all d h

theorem digitChar_digitValue {c : Char} (h : c.isDigit = true) :
    Layout.digitChar (digitValue c) = c ∧ digitValue c < 10 := by
  delta Char.isDigit at h
  simp only [Bool.and_eq_true, decide_eq_true_eq, UInt32.le_iff_toNat_le] at h
  have hall : ∀ n < 58, 48 ≤ n →
      Layout.digitChar (digitValue (Char.ofNat n)) = Char.ofNat n ∧
        digitValue (Char.ofNat n) < 10 := by
    decide
  have hval : c.val.toNat = c.toNat := rfl
  have h0 : '0'.val.toNat = 48 := rfl
  have h9 : '9'.val.toNat = 57 := rfl
  have hdigit := hall c.toNat (by omega) (by omega)
  rwa [Char.ofNat_toNat] at hdigit

theorem ne_sign_of_isDigit {c : Char} (h : c.isDigit = true) : c ≠ '-' ∧ c ≠ '+' := by
  constructor
  · rintro rfl
    exact absurd h (by decide)
  · rintro rfl
    exact absurd h (by decide)

/-- A row of decimal digits, not empty. -/
structure Digits where
  values : List Nat
  small : ∀ d ∈ values, d < 10
  nonempty : values ≠ []

namespace Digits

/-- A row of digits as it is written. -/
def text (ds : Digits) : List Char := ds.values.map Layout.digitChar

theorem isDigit_of_mem_text {ds : Digits} {c : Char} (h : c ∈ ds.text) : c.isDigit = true := by
  obtain ⟨d, hd, rfl⟩ := List.mem_map.mp h
  exact isDigit_digitChar (ds.small d hd)

theorem map_digitValue_text (ds : Digits) : ds.text.map digitValue = ds.values := by
  rw [text, List.map_map]
  refine (List.map_congr_left ?_).trans (List.map_id _)
  intro d hd
  exact digitValue_digitChar (ds.small d hd)

/-- A row of digits begins with a digit. -/
theorem text_eq_cons (ds : Digits) : ∃ c rest, ds.text = c :: rest ∧ c.isDigit = true := by
  obtain ⟨d, rest, hvalues⟩ := List.exists_cons_of_ne_nil ds.nonempty
  refine ⟨_, rest.map Layout.digitChar, by rw [text, hvalues, List.map_cons], ?_⟩
  exact isDigit_digitChar (ds.small d (by simp [hvalues]))

/-- A row of digits is read up to where it ends. -/
theorem spanDigits_text (ds : Digits) {rest : List Char} (h : ∀ c ∈ rest.head?, c.isDigit = false) :
    spanDigits (ds.text ++ rest) = (ds.values, rest) := by
  have hall : ∀ c ∈ ds.text, c.isDigit = true := fun c hc => isDigit_of_mem_text hc
  rw [spanDigits, Text.takeWhile_boundary hall h, Text.dropWhile_boundary hall h,
    map_digitValue_text]

/-- The digits at the front of a text are a row, if there are any. -/
theorem exists_of_spanDigits {cs rest : List Char} {ds : List Nat}
    (h : spanDigits cs = (ds, rest)) (hne : ds ≠ []) :
    ∃ row : Digits, row.values = ds ∧ cs = row.text ++ rest := by
  obtain ⟨hds, hrest⟩ := Prod.mk.inj h
  have hdigit : ∀ c ∈ cs.takeWhile Char.isDigit, c.isDigit = true :=
    fun c hc => Text.of_mem_takeWhile hc
  have hsmall : ∀ d ∈ ds, d < 10 := by
    intro d hd
    rw [← hds] at hd
    obtain ⟨c, hc, rfl⟩ := List.mem_map.mp hd
    exact (digitChar_digitValue (hdigit c hc)).2
  refine ⟨⟨ds, hsmall, hne⟩, rfl, ?_⟩
  have htext : ds.map Layout.digitChar = cs.takeWhile Char.isDigit := by
    rw [← hds, List.map_map]
    refine (List.map_congr_left fun c hc => ?_).trans (List.map_id _)
    exact (digitChar_digitValue (hdigit c hc)).1
  rw [text, htext, ← hrest, List.takeWhile_append_dropWhile]

end Digits

/-! ## Digits of a natural -/

theorem ofDigits_append_singleton (ds : List Nat) (d : Nat) :
    ofDigits (ds ++ [d]) = ofDigits ds * 10 + d := by
  simp [ofDigits]

theorem digitsOf_of_lt {n : Nat} (h : n < 10) : Double.digitsOf n = [n] := by
  have hchar : ∀ m < 10, (Nat.digitChar m).toNat - '0'.toNat = m := by decide
  rw [Double.digitsOf, Nat.toDigits_of_lt_base h, List.map_singleton, hchar n h]

theorem digitsOf_of_ge {n : Nat} (h : 10 ≤ n) :
    Double.digitsOf n = Double.digitsOf (n / 10) ++ [n % 10] := by
  have hchar : ∀ m < 10, (Nat.digitChar m).toNat - '0'.toNat = m := by decide
  rw [Double.digitsOf, Nat.toDigits_of_base_le (by decide) h, List.map_append, List.map_singleton,
    hchar _ (Nat.mod_lt _ (by decide))]
  rfl

/-- What holds of the digits below ten, and of a row with one more digit, holds of all digits. -/
theorem digitsOf_induction {motive : Nat → List Nat → Prop} (one : ∀ n < 10, motive n [n])
    (more : ∀ n, 10 ≤ n → motive (n / 10) (Double.digitsOf (n / 10)) →
      motive n (Double.digitsOf (n / 10) ++ [n % 10])) (n : Nat) :
    motive n (Double.digitsOf n) := by
  induction n using Nat.strongRecOn with
  | ind n ih =>
      by_cases h : n < 10
      · rw [digitsOf_of_lt h]
        exact one n h
      · rw [digitsOf_of_ge (by omega)]
        exact more n (by omega) (ih _ (by omega))

theorem lt_of_mem_digitsOf (n : Nat) : ∀ d ∈ Double.digitsOf n, d < 10 := by
  induction n using digitsOf_induction with
  | one n h => simpa using h
  | more n h ih =>
      intro d hd
      rcases List.mem_append.mp hd with hd | hd
      · exact ih d hd
      · obtain rfl : d = n % 10 := by simpa using hd
        omega

theorem digitsOf_ne_nil (n : Nat) : Double.digitsOf n ≠ [] := by
  induction n using digitsOf_induction with
  | one n h => simp
  | more n h ih => simp

theorem ofDigits_digitsOf (n : Nat) : ofDigits (Double.digitsOf n) = n := by
  induction n using digitsOf_induction with
  | one n h => simp [ofDigits]
  | more n h ih =>
      rw [ofDigits_append_singleton, ih]
      omega

/-- Only zero begins with the digit zero. -/
theorem head_digitsOf {n : Nat} (hn : n ≠ 0) : (Double.digitsOf n).head? ≠ some 0 := by
  induction n using digitsOf_induction with
  | one n h => simpa using hn
  | more n h ih =>
      obtain ⟨d, rest, hdigits⟩ := List.exists_cons_of_ne_nil (digitsOf_ne_nil (n / 10))
      have hhead := ih (by omega)
      rw [hdigits] at hhead ⊢
      exact hhead

theorem map_digitChar_digitsOf (n : Nat) :
    (Double.digitsOf n).map Layout.digitChar = Nat.toDigits 10 n := by
  have hchar : ∀ m < 10, Layout.digitChar m = Nat.digitChar m := by decide
  induction n using digitsOf_induction with
  | one n h => rw [Nat.toDigits_of_lt_base h, List.map_singleton, hchar n h]
  | more n h ih =>
      rw [Nat.toDigits_of_base_le (by decide) h, List.map_append, ih, List.map_singleton,
        hchar _ (Nat.mod_lt _ (by decide))]

/-- The digits of a natural as a row. -/
def Digits.ofNat (n : Nat) : Digits :=
  ⟨Double.digitsOf n, lt_of_mem_digitsOf n, digitsOf_ne_nil n⟩

theorem Digits.text_ofNat (n : Nat) : (Digits.ofNat n).text = Nat.toDigits 10 n :=
  map_digitChar_digitsOf n

/-- A row of digits without a leading zero is the row of its natural. -/
theorem digitsOf_ofDigits {ds : List Nat} (hsmall : ∀ d ∈ ds, d < 10) (hne : ds ≠ [])
    (hleading : ds.head? = some 0 → ds = [0]) : Double.digitsOf (ofDigits ds) = ds := by
  induction ds using List.reverseRecOn with
  | nil => exact absurd rfl hne
  | append_singleton front d ih =>
      have hd : d < 10 := hsmall d (by simp)
      by_cases hfront : front = []
      · subst hfront
        rw [ofDigits_append_singleton]
        simpa [ofDigits] using digitsOf_of_lt hd
      · obtain ⟨first, rest, rfl⟩ := List.exists_cons_of_ne_nil hfront
        have hfirst : first ≠ 0 := by
          rintro rfl
          simpa using hleading rfl
        have hrow := ih (fun e he => hsmall e (List.mem_append_left _ he)) (by simp)
          (fun h => absurd (Option.some.inj h) hfirst)
        have hpos : ofDigits (first :: rest) ≠ 0 := by
          intro hzero
          rw [hzero] at hrow
          have hhead : Double.digitsOf 0 = [0] := digitsOf_of_lt (by decide)
          rw [hhead] at hrow
          exact hfirst (List.cons.inj hrow).1.symm
        rw [ofDigits_append_singleton, digitsOf_of_ge (by omega)]
        rw [show (ofDigits (first :: rest) * 10 + d) / 10 = ofDigits (first :: rest) by omega,
          show (ofDigits (first :: rest) * 10 + d) % 10 = d by omega, hrow]

/-! ## Rows of digits that may be empty -/

/-- A row of digits as it is written; without digits nothing is. -/
def rowText (row : Option Digits) : List Char := (row.map Digits.text).getD []

/-- The digits of a row. -/
def rowValues (row : Option Digits) : List Nat := (row.map Digits.values).getD []

theorem spanDigits_rowText (row : Option Digits) {rest : List Char}
    (h : ∀ c ∈ rest.head?, c.isDigit = false) :
    spanDigits (rowText row ++ rest) = (rowValues row, rest) := by
  cases row with
  | none =>
      cases rest with
      | nil => rfl
      | cons c rest => simp [spanDigits, rowText, rowValues, h c rfl]
  | some ds => exact ds.spanDigits_text h

theorem exists_row_of_spanDigits {cs rest : List Char} {ds : List Nat}
    (h : spanDigits cs = (ds, rest)) :
    ∃ row : Option Digits, rowValues row = ds ∧ cs = rowText row ++ rest := by
  by_cases hne : ds = []
  · subst hne
    obtain ⟨hvalues, hrest⟩ := Prod.mk.inj h
    have hnone : cs.takeWhile Char.isDigit = [] := List.map_eq_nil_iff.mp hvalues
    have hsplit := List.takeWhile_append_dropWhile (p := Char.isDigit) (l := cs)
    rw [hnone, List.nil_append, hrest] at hsplit
    exact ⟨none, rfl, hsplit.symm⟩
  · obtain ⟨ds', rfl, hcs⟩ := Digits.exists_of_spanDigits h hne
    exact ⟨some ds', rfl, hcs⟩

theorem rowValues_ne_nil_iff (row : Option Digits) : rowValues row ≠ [] ↔ row.isSome := by
  cases row with
  | none => simp [rowValues]
  | some ds => simp [rowValues, ds.nonempty]

/-! ## Signs -/

/-- A sign as it is written, if there is one; it may be a minus. -/
def signText (sign : Option Bool) : List Char :=
  (sign.map fun minus => if minus then '-' else '+').toList

/-- A sign is read before a text that has none. -/
theorem exponentSign_signText (sign : Option Bool) {cs : List Char}
    (h : ∀ c ∈ cs.head?, c ≠ '-' ∧ c ≠ '+') :
    Literal.exponentSign (signText sign ++ cs) = (sign == some true, cs) := by
  cases sign with
  | none =>
      refine Literal.exponentSign.eq_3 _ ?_ ?_
      · rintro rest rfl
        exact (h _ rfl).1 rfl
      · rintro rest rfl
        exact (h _ rfl).2 rfl
  | some minus => cases minus <;> rfl

/-- Every text is what is read of it as a sign, and the rest. -/
theorem exists_of_exponentSign (cs : List Char) :
    ∃ (sign : Option Bool) (rest : List Char), cs = signText sign ++ rest ∧
      Literal.exponentSign cs = (sign == some true, rest) := by
  by_cases hminus : ∃ rest, cs = '-' :: rest
  · obtain ⟨rest, rfl⟩ := hminus
    exact ⟨some true, rest, rfl, rfl⟩
  · by_cases hplus : ∃ rest, cs = '+' :: rest
    · obtain ⟨rest, rfl⟩ := hplus
      exact ⟨some false, rest, rfl, rfl⟩
    · refine ⟨none, cs, rfl, Literal.exponentSign.eq_3 _ ?_ ?_⟩
      · exact fun rest h => hminus ⟨rest, h⟩
      · exact fun rest h => hplus ⟨rest, h⟩

/-! ## Exponents -/

/-- The exponent of a numeral: a letter, perhaps a sign, and digits. -/
structure Exponent where
  capital : Bool
  /-- The sign, if there is one; it may be a minus. -/
  sign : Option Bool
  digits : Digits

/-- An exponent as it is written. -/
def Exponent.text (e : Exponent) : List Char :=
  (if e.capital then 'E' else 'e') ::
    ((e.sign.map fun minus => if minus then '-' else '+').toList ++ e.digits.text)

theorem readExponent_text (exponent : Option Exponent) :
    Literal.readExponent ((exponent.map Exponent.text).getD []) =
      some (exponent.map fun e => (e.sign == some true, e.digits.values)) := by
  cases exponent with
  | none => rfl
  | some e =>
      obtain ⟨c, rest, htext, hdigit⟩ := e.digits.text_eq_cons
      have hspan : spanDigits e.digits.text = (e.digits.values, []) := by
        have hnone : ∀ c ∈ ([] : List Char).head?, c.isDigit = false := by simp
        simpa using e.digits.spanDigits_text hnone
      have hsign : Literal.exponentSign (signText e.sign ++ e.digits.text) =
          (e.sign == some true, e.digits.text) := by
        refine exponentSign_signText e.sign ?_
        rw [htext]
        rintro d hd
        obtain rfl := Option.some.inj hd
        exact ne_sign_of_isDigit hdigit
      have hmark : (if e.capital then 'E' else 'e') = 'e' ∨
          (if e.capital then 'E' else 'e') = 'E' := by
        cases e.capital <;> simp
      have hne : e.digits.values.isEmpty = false := by simp [e.digits.nonempty]
      rw [signText] at hsign
      simp only [Option.map_some, Option.getD_some, Literal.readExponent, Exponent.text, hmark,
        if_true, hsign, hspan, hne]
      rfl

/-- An exponent begins with its letter. -/
theorem head_exponent (exponent : Option Exponent) :
    ∀ c ∈ ((exponent.map Exponent.text).getD []).head?, c = 'e' ∨ c = 'E' := by
  cases exponent with
  | none => simp
  | some e => cases hc : e.capital <;> simp [Exponent.text, hc]

/-- Every text that is read as an exponent is that of one. -/
theorem exists_of_readExponent {cs : List Char} {e : Option (Bool × List Nat)}
    (h : Literal.readExponent cs = some e) :
    ∃ exponent : Option Exponent, (exponent.map Exponent.text).getD [] = cs ∧
      (exponent.map fun e => (e.sign == some true, e.digits.values)) = e := by
  cases cs with
  | nil => exact ⟨none, rfl, Option.some.inj h⟩
  | cons c cs =>
      obtain ⟨sign, rest, hcs, hsign⟩ := exists_of_exponentSign cs
      rw [Literal.readExponent, hsign] at h
      split at h
      · next hmark =>
          dsimp only at h
          split at h
          · next ds hspan =>
              have hne : ds ≠ [] := by
                rintro rfl
                cases h
              obtain ⟨digits, rfl, hrest⟩ := Digits.exists_of_spanDigits hspan hne
              rw [if_neg (by simpa using hne)] at h
              refine ⟨some ⟨c == 'E', sign, digits⟩, ?_, Option.some.inj h⟩
              rw [Option.map_some, Option.getD_some, Exponent.text, hcs, hrest, List.append_nil]
              rcases hmark with rfl | rfl <;> rfl
          · cases h
      · cases h

/-! ## Literals without their sign -/

section Unsigned

variable (negative : Bool) (whole : Option Digits) (fraction : Option (Option Digits))
  (exponent : Option Exponent)

/-- The fraction and the exponent of a number as they are written. -/
def tailText : List Char :=
  (fraction.map fun row => '.' :: rowText row).getD [] ++ (exponent.map Exponent.text).getD []

/-- The literal that is written by these parts. -/
def literalOf : Literal :=
  ⟨negative, rowValues whole, fraction.map rowValues,
    exponent.map fun e => (e.sign == some true, e.digits.values)⟩

theorem head_tailText : ∀ c ∈ (tailText fraction exponent).head?, c = '.' ∨ c = 'e' ∨ c = 'E' := by
  have hexponent := head_exponent exponent
  unfold tailText
  cases fraction with
  | none => exact fun c hc => .inr (hexponent c (by simpa using hc))
  | some row => simp

theorem not_isDigit_of_mark {c : Char} (h : c = '.' ∨ c = 'e' ∨ c = 'E') : c.isDigit = false := by
  rcases h with rfl | rfl | rfl <;> decide

theorem readTail_tailText :
    Literal.readTail negative (rowValues whole) (tailText fraction exponent) =
      some (literalOf negative whole fraction exponent) := by
  have hexponent := readExponent_text exponent
  have hhead := head_exponent exponent
  unfold tailText literalOf
  cases fraction with
  | none =>
      have hpoint : ∀ cs, (exponent.map Exponent.text).getD [] ≠ '.' :: cs := by
        intro cs heq
        rw [heq] at hhead
        exact absurd (hhead _ rfl) (by decide)
      rw [Option.map_none, Option.getD_none, List.nil_append, Literal.readTail.eq_2 _ _ _ hpoint,
        hexponent]
      rfl
  | some row =>
      have hspan := spanDigits_rowText row fun c hc => not_isDigit_of_mark (.inr (hhead c hc))
      simp only [Option.map_some, Option.getD_some, List.cons_append, Literal.readTail, hspan,
        hexponent]

/-- What is written without a sign is read as its literal, under any sign before it. -/
theorem readUnsigned_text :
    Literal.readUnsigned negative (rowText whole ++ tailText fraction exponent) =
      some (literalOf negative whole fraction exponent) := by
  have hspan := spanDigits_rowText whole fun c hc =>
    not_isDigit_of_mark (head_tailText fraction exponent c hc)
  rw [Literal.readUnsigned, hspan]
  exact readTail_tailText negative whole fraction exponent

end Unsigned

section Unsigned

variable {negative : Bool} {cs : List Char} {l : Literal}

theorem exists_of_readTail {whole : Option Digits}
    (h : Literal.readTail negative (rowValues whole) cs = some l) :
    ∃ (fraction : Option (Option Digits)) (exponent : Option Exponent),
      cs = tailText fraction exponent ∧ l = literalOf negative whole fraction exponent := by
  by_cases hpoint : ∃ rest, cs = '.' :: rest
  · obtain ⟨rest, rfl⟩ := hpoint
    obtain ⟨ds, behind, hspan⟩ : ∃ ds behind, spanDigits rest = (ds, behind) := ⟨_, _, rfl⟩
    rw [Literal.readTail, hspan] at h
    obtain ⟨e, he, rfl⟩ := Option.map_eq_some_iff.mp h
    obtain ⟨exponent, htext, rfl⟩ := exists_of_readExponent he
    obtain ⟨row, rfl, rfl⟩ := exists_row_of_spanDigits hspan
    exact ⟨some row, exponent, by simp [tailText, htext], rfl⟩
  · rw [Literal.readTail.eq_2 _ _ _ fun rest hrest => hpoint ⟨rest, hrest⟩] at h
    obtain ⟨e, he, rfl⟩ := Option.map_eq_some_iff.mp h
    obtain ⟨exponent, htext, rfl⟩ := exists_of_readExponent he
    exact ⟨none, exponent, by simp [tailText, htext], rfl⟩

/-- Every text that is read as a literal without a sign is written by its parts. -/
theorem exists_of_readUnsigned (h : Literal.readUnsigned negative cs = some l) :
    ∃ (whole : Option Digits) (fraction : Option (Option Digits)) (exponent : Option Exponent),
      cs = rowText whole ++ tailText fraction exponent ∧
        l = literalOf negative whole fraction exponent := by
  obtain ⟨ds, behind, hspan⟩ : ∃ ds behind, spanDigits cs = (ds, behind) := ⟨_, _, rfl⟩
  rw [Literal.readUnsigned, hspan] at h
  obtain ⟨whole, rfl, rfl⟩ := exists_row_of_spanDigits hspan
  obtain ⟨fraction, exponent, rfl, rfl⟩ := exists_of_readTail h
  exact ⟨whole, fraction, exponent, rfl, rfl⟩

end Unsigned

end AlarmMonitor.Number
