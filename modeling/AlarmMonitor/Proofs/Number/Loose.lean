import AlarmMonitor.Number.Binary
import AlarmMonitor.Proofs.Number.Digits

/-!
# Numbers in the loose form

The numbers that a configuration may hold, as they are written: perhaps a sign, which may be a plus,
digits with leading zeros before another digit, and a point with digits on one side only.

* `splitSign_text`, `exists_of_splitSign`: the sign at the front of a text;
* `LooseNumeral`: such a number, with its text and its literal;
* `ofLoose_text`: the text is read as the literal, for every such number;
* `exists_of_ofLoose`: no other text is read as a literal.
-/

set_option autoImplicit false

namespace AlarmMonitor.Number

/-- A sign is read before a text that has none. -/
theorem splitSign_text (sign : Option Bool) {cs : List Char}
    (h : ∀ c ∈ cs.head?, c ≠ '-' ∧ c ≠ '+') :
    Binary.splitSign (signText sign ++ cs) = (sign == some true, cs) :=
  exponentSign_signText sign h

/-- The sign at the front of a number is read like that of an exponent. -/
theorem exists_of_splitSign (cs : List Char) :
    ∃ (sign : Option Bool) (rest : List Char), cs = signText sign ++ rest ∧
      Binary.splitSign cs = (sign == some true, rest) :=
  exists_of_exponentSign cs

/-! ## Loose numerals -/

/-- A number as it may stand in a configuration. -/
structure LooseNumeral where
  /-- The sign, if there is one; it may be a minus. -/
  sign : Option Bool
  whole : Option Digits
  fraction : Option (Option Digits)
  exponent : Option Exponent
  /-- There is a digit beside the point. -/
  digit : (whole.or fraction.join).isSome

namespace LooseNumeral

/-- What stands behind the whole digits. -/
def tail (n : LooseNumeral) : List Char :=
  (n.fraction.map fun row => '.' :: rowText row).getD [] ++
    (n.exponent.map Exponent.text).getD []

/-- A loose numeral without its sign. -/
def body (n : LooseNumeral) : List Char := rowText n.whole ++ n.tail

/-- A loose numeral as it is written. -/
def text (n : LooseNumeral) : List Char := signText n.sign ++ n.body

/-- The literal that a loose numeral writes. -/
def literal (n : LooseNumeral) : Literal :=
  ⟨n.sign == some true, rowValues n.whole, n.fraction.map rowValues,
    n.exponent.map fun e => (e.sign == some true, e.digits.values)⟩

/-- There is a digit beside the point exactly if the literal has one. -/
theorem isLoose_iff (whole : Option Digits) (fraction : Option (Option Digits)) (negative : Bool)
    (exponent : Option (Bool × List Nat)) :
    Literal.isLoose ⟨negative, rowValues whole, fraction.map rowValues, exponent⟩ = true ↔
      (whole.or fraction.join).isSome := by
  cases whole with
  | some ds => simp [Literal.isLoose, rowValues, ds.nonempty]
  | none =>
      cases fraction with
      | none => simp [Literal.isLoose, rowValues]
      | some row =>
          simp only [Literal.isLoose, Option.map_some, Option.getD_some, bne_iff_ne,
            Bool.or_eq_true, Option.none_or, Option.join_some, rowValues_ne_nil_iff]
          simp [rowValues]

/-- A loose numeral begins, behind its sign, with a digit or a point. -/
theorem body_eq_cons (n : LooseNumeral) :
    ∃ c rest, n.body = c :: rest ∧ (c.isDigit = true ∨ c = '.') := by
  have hdigit := n.digit
  unfold body tail
  cases hwhole : n.whole with
  | some ds =>
      obtain ⟨c, rest, htext, hc⟩ := ds.text_eq_cons
      exact ⟨c, rest ++ _, by simp only [rowText, Option.map_some, Option.getD_some, htext]; rfl,
        .inl hc⟩
  | none =>
      rw [hwhole, Option.none_or] at hdigit
      cases hfraction : n.fraction with
      | none => exact absurd (hfraction ▸ hdigit) (by simp)
      | some row => exact ⟨'.', _, rfl, .inr rfl⟩

theorem head_body (n : LooseNumeral) : ∀ c ∈ n.body.head?, c ≠ '-' ∧ c ≠ '+' := by
  obtain ⟨c, rest, hbody, hc⟩ := n.body_eq_cons
  rw [hbody]
  rintro d hd
  obtain rfl := Option.some.inj hd
  rcases hc with hc | rfl
  · exact ne_sign_of_isDigit hc
  · decide

end LooseNumeral

/-- The loose form is read behind its sign. -/
theorem ofLoose_eq (cs : List Char) :
    Literal.ofLoose cs =
      (Literal.readUnsigned (Binary.splitSign cs).1 (Binary.splitSign cs).2).filter
        Literal.isLoose := by
  by_cases hminus : ∃ rest, cs = '-' :: rest
  · obtain ⟨rest, rfl⟩ := hminus
    rfl
  · by_cases hplus : ∃ rest, cs = '+' :: rest
    · obtain ⟨rest, rfl⟩ := hplus
      rfl
    · have hsplit : Binary.splitSign cs = (false, cs) :=
        Binary.splitSign.eq_3 _ (fun rest h => hminus ⟨rest, h⟩) fun rest h => hplus ⟨rest, h⟩
      rw [hsplit, Literal.ofLoose]
      · exact fun rest h => hminus ⟨rest, h⟩
      · exact fun rest h => hplus ⟨rest, h⟩

namespace LooseNumeral

/-- Every loose numeral is read as the literal that it writes. -/
theorem ofLoose_text (n : LooseNumeral) : Literal.ofLoose n.text = some n.literal := by
  have hread : Literal.readUnsigned (n.sign == some true) n.body = some n.literal :=
    readUnsigned_text _ _ _ _
  rw [ofLoose_eq, text, splitSign_text n.sign n.head_body, hread]
  exact Option.filter_eq_some_iff.mpr ⟨rfl, (isLoose_iff _ _ _ _).mpr n.digit⟩

/-- Every text that is read as a loose literal is that of a loose numeral. -/
theorem exists_of_ofLoose {cs : List Char} {l : Literal} (h : Literal.ofLoose cs = some l) :
    ∃ n : LooseNumeral, n.text = cs ∧ n.literal = l := by
  obtain ⟨sign, rest, rfl, hsplit⟩ := exists_of_splitSign cs
  rw [ofLoose_eq, hsplit] at h
  obtain ⟨hread, hloose⟩ := Option.filter_eq_some_iff.mp h
  obtain ⟨whole, fraction, exponent, rfl, rfl⟩ := exists_of_readUnsigned hread
  exact ⟨⟨sign, whole, fraction, exponent, (isLoose_iff _ _ _ _).mp hloose⟩, rfl, rfl⟩

end LooseNumeral

end AlarmMonitor.Number
