import AlarmMonitor.Proofs.Number.Digits

/-!
# Numerals

The numbers that may stand in a body, as they are written: digits without a leading zero, perhaps a
fraction and perhaps an exponent.

* `Numeral`: such a number, with its text and its literal; `Numeral.ofInt` is an integer;
* `ofStrict_text`: the text is read as the literal, for every numeral;
* `exists_of_ofStrict`: no other text is read as a literal.
-/

set_option autoImplicit false

namespace AlarmMonitor.Number

/-- A number as it may stand in a body: without a leading zero before another digit, and with digits
on both sides of a point. -/
structure Numeral where
  negative : Bool
  whole : Digits
  /-- A leading zero stands alone. -/
  leading : whole.values.head? = some 0 → whole.values = [0]
  fraction : Option Digits
  exponent : Option Exponent

namespace Numeral

/-- What stands behind the whole digits of a numeral. -/
def tail (n : Numeral) : List Char :=
  (n.fraction.map fun ds => '.' :: ds.text).getD [] ++ (n.exponent.map Exponent.text).getD []

/-- A numeral as it is written. -/
def text (n : Numeral) : List Char :=
  (if n.negative then ['-'] else []) ++ (n.whole.text ++ n.tail)

/-- The literal that a numeral writes. -/
def literal (n : Numeral) : Literal :=
  ⟨n.negative, n.whole.values, n.fraction.map Digits.values,
    n.exponent.map fun e => (e.sign == some true, e.digits.values)⟩

theorem isStrict_literal (n : Numeral) : n.literal.isStrict = true := by
  rw [Literal.isStrict, Bool.and_eq_true]
  constructor
  · have hleading := n.leading
    have hne := n.whole.nonempty
    simp only [literal]
    split
    · next h => exact absurd h hne
    · rfl
    · next d rest hrest h =>
        have hd : d ≠ 0 := by
          rintro rfl
          have hsingle := hleading (by simp [h])
          rw [h, List.cons.injEq] at hsingle
          exact hrest hsingle.2
        simpa using hd
  · simp only [literal]
    cases n.fraction with
    | none => rfl
    | some ds => simpa using ds.nonempty

/-- The parts of a numeral are those of any number that is written without its sign. -/
theorem unsigned_eq (n : Numeral) :
    n.whole.text ++ n.tail = rowText (some n.whole) ++ tailText (n.fraction.map some) n.exponent := by
  unfold tail
  cases n.fraction <;> rfl

theorem literal_eq (n : Numeral) :
    n.literal = literalOf n.negative (some n.whole) (n.fraction.map some) n.exponent := by
  unfold literal
  cases n.fraction <;> rfl

/-- Every numeral is read as the literal that it writes. -/
theorem ofStrict_text (n : Numeral) : Literal.ofStrict n.text = some n.literal := by
  have hread : Literal.readUnsigned n.negative (n.whole.text ++ n.tail) = some n.literal := by
    rw [n.unsigned_eq, n.literal_eq]
    exact readUnsigned_text _ _ _ _
  have hfilter : (some n.literal).filter Literal.isStrict = some n.literal := by
    simp [Option.filter, n.isStrict_literal]
  obtain ⟨c, rest, htext, hdigit⟩ := n.whole.text_eq_cons
  unfold text Literal.ofStrict
  cases hn : n.negative with
  | true =>
      rw [hn] at hread
      simp only [if_true, List.cons_append, List.nil_append, hread, hfilter]
  | false =>
      rw [hn] at hread
      have hminus : c ≠ '-' := (ne_sign_of_isDigit hdigit).1
      rw [htext, List.cons_append] at hread ⊢
      simp only [Bool.false_eq_true, if_false, List.nil_append]
      split
      · next cs heq =>
          rw [List.cons.injEq] at heq
          exact absurd heq.1 hminus
      · rw [hread, hfilter]

/-- A numeral begins with a digit or a minus sign. -/
theorem text_eq_cons (n : Numeral) :
    ∃ c rest, n.text = c :: rest ∧ (c.isDigit = true ∨ c = '-') := by
  obtain ⟨c, rest, htext, hdigit⟩ := n.whole.text_eq_cons
  cases hn : n.negative with
  | true => exact ⟨'-', n.whole.text ++ n.tail, by simp [text, hn], .inr rfl⟩
  | false => exact ⟨c, rest ++ n.tail, by simp [text, hn, htext], .inl hdigit⟩

/-- An integer as a numeral. -/
def ofInt (i : Int) : Numeral where
  negative := i < 0
  whole := .ofNat i.natAbs
  leading := by
    intro h
    by_cases hi : i.natAbs = 0
    · rw [hi]
      rfl
    · exact absurd h (head_digitsOf hi)
  fraction := none
  exponent := none

theorem literal_ofInt (i : Int) :
    (ofInt i).literal = ⟨i < 0, Double.digitsOf i.natAbs, none, none⟩ := rfl

/-! ### Texts that are numerals -/

/-- The parts of a strict literal are those of a numeral. -/
theorem exists_of_isStrict {negative : Bool} {whole : Option Digits}
    {fraction : Option (Option Digits)} {exponent : Option Exponent}
    (h : (literalOf negative whole fraction exponent).isStrict = true) :
    ∃ n : Numeral, n.negative = negative ∧
      n.whole.text ++ n.tail = rowText whole ++ tailText fraction exponent ∧
        n.literal = literalOf negative whole fraction exponent := by
  obtain ⟨hwhole, hfraction⟩ := (Bool.and_eq_true _ _).mp h
  obtain ⟨digits, rfl⟩ : ∃ digits, whole = some digits := by
    cases whole with
    | none => cases hwhole
    | some digits => exact ⟨digits, rfl⟩
  obtain ⟨fraction', rfl⟩ : ∃ fraction' : Option Digits, fraction = fraction'.map some := by
    match fraction with
    | none => exact ⟨none, rfl⟩
    | some (some ds) => exact ⟨some ds, rfl⟩
    | some none => cases hfraction
  have hleading : digits.values.head? = some 0 → digits.values = [0] := by
    intro hhead
    obtain ⟨d, rest, hvalues⟩ := List.exists_cons_of_ne_nil digits.nonempty
    obtain rfl : d = 0 := by simpa [hvalues] using hhead
    cases rest with
    | nil => exact hvalues
    | cons e rest => exact absurd hwhole (by simp [literalOf, rowValues, hvalues])
  let n : Numeral := ⟨negative, digits, hleading, fraction', exponent⟩
  exact ⟨n, rfl, n.unsigned_eq, n.literal_eq⟩

theorem exists_of_filter {negative : Bool} {cs : List Char} {l : Literal}
    (h : (Literal.readUnsigned negative cs).filter Literal.isStrict = some l) :
    ∃ n : Numeral, n.text = (if negative then ['-'] else []) ++ cs ∧ n.literal = l := by
  obtain ⟨hread, hstrict⟩ := Option.filter_eq_some_iff.mp h
  obtain ⟨whole, fraction, exponent, rfl, rfl⟩ := exists_of_readUnsigned hread
  obtain ⟨n, hnegative, htext, hliteral⟩ := exists_of_isStrict hstrict
  exact ⟨n, by rw [text, hnegative, htext], hliteral⟩

/-- Every text that is read as a strict literal is that of a numeral. -/
theorem exists_of_ofStrict {cs : List Char} {l : Literal} (h : Literal.ofStrict cs = some l) :
    ∃ n : Numeral, n.text = cs ∧ n.literal = l := by
  by_cases hminus : ∃ rest, cs = '-' :: rest
  · obtain ⟨rest, rfl⟩ := hminus
    exact exists_of_filter h
  · have hplain : Literal.ofStrict cs = (Literal.readUnsigned false cs).filter Literal.isStrict := by
      rw [Literal.ofStrict]
      exact fun rest hrest => hminus ⟨rest, hrest⟩
    exact exists_of_filter (hplain.symm.trans h)

end Numeral

end AlarmMonitor.Number
