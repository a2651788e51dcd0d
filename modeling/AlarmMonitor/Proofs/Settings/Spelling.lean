import AlarmMonitor.Proofs.Number.Loose
import AlarmMonitor.Settings.Environment

/-!
# What the texts of variables spell

The text of a variable is taken for a truth value, an integer of 64 bits or a real wherever it
spells one, and for itself otherwise.

* `WrittenInteger`: an integer as a variable may write it; `text_eq_iff` says which of them are
  printed as they were written;
* `Spells`: the values that texts spell;
* `scalarOf_of_spells`, `spells_of_scalarOf`: what a text spells is what it is taken for;
* `isValueChar_of_spells`: the characters of texts that spell a value.
-/

set_option autoImplicit false

namespace AlarmMonitor.Settings.Environment

open AlarmMonitor.Number (Binary Digits LooseNumeral signText)

/-! ## Written integers -/

/-- An integer as a variable may write it: perhaps a sign, and digits. -/
structure WrittenInteger where
  /-- The sign, if there is one; it may be a minus. -/
  sign : Option Bool
  digits : Digits

namespace WrittenInteger

/-- An integer as it is written. -/
def text (n : WrittenInteger) : List Char := signText n.sign ++ n.digits.text

/-- The integer that is written. -/
def value (n : WrittenInteger) : Int :=
  if n.sign = some true then -(Number.ofDigits n.digits.values : Int)
  else Number.ofDigits n.digits.values

/-- Does the integer have 64 bits? -/
def Fits (n : WrittenInteger) : Prop :=
  -(Number.signedBound : Int) ≤ n.value ∧ n.value < Number.signedBound

instance (n : WrittenInteger) : Decidable n.Fits := inferInstanceAs (Decidable (_ ∧ _))

/-- Is the integer written as usual?  It has no plus sign and no leading zero, and zero has no
sign. -/
def IsPlain (n : WrittenInteger) : Prop :=
  n.sign ≠ some false ∧ (n.digits.values.head? = some 0 → n.digits.values = [0] ∧ n.sign = none)

/-- An integer as it is usually written. -/
def ofInt (i : Int) : WrittenInteger := ⟨if i < 0 then some true else none, .ofNat i.natAbs⟩

theorem value_of_minus {n : WrittenInteger} (h : n.sign = some true) :
    n.value = -(Number.ofDigits n.digits.values : Int) := if_pos h

theorem value_of_no_minus {n : WrittenInteger} (h : n.sign ≠ some true) :
    n.value = Number.ofDigits n.digits.values := if_neg h

theorem head_digits (n : WrittenInteger) : ∀ c ∈ n.digits.text.head?, c.isDigit = true := by
  obtain ⟨c, rest, htext, hc⟩ := n.digits.text_eq_cons
  rw [htext]
  rintro d hd
  obtain rfl := Option.some.inj hd
  exact hc

theorem splitSign_text (n : WrittenInteger) :
    Binary.splitSign n.text = (n.sign == some true, n.digits.text) :=
  Number.splitSign_text n.sign fun c hc => Number.ne_sign_of_isDigit (n.head_digits c hc)

/-- A written integer is read exactly if it has 64 bits. -/
theorem readInteger_text (n : WrittenInteger) :
    readInteger n.text = if n.Fits then some n.value else none := by
  have hspan : Number.spanDigits n.digits.text = (n.digits.values, []) := by
    have hnone : ∀ c ∈ ([] : List Char).head?, c.isDigit = false := by simp
    simpa using n.digits.spanDigits_text hnone
  have hbound : 0 < Number.signedBound := by decide
  simp only [readInteger, splitSign_text, hspan]
  by_cases hsign : n.sign = some true
  · have hvalue := value_of_minus hsign
    by_cases hlarge : Number.signedBound < Number.ofDigits n.digits.values
    · have hfits : ¬ n.Fits := fun hfits => by
        have := hfits.1
        omega
      simp [hsign, hlarge, hfits]
    · have hfits : n.Fits := ⟨by omega, by omega⟩
      simp [hsign, hlarge, hfits, hvalue, n.digits.nonempty]
  · have hvalue := value_of_no_minus hsign
    by_cases hlarge : Number.signedBound ≤ Number.ofDigits n.digits.values
    · have hfits : ¬ n.Fits := fun hfits => by
        have := hfits.2
        omega
      simp [hsign, hlarge, hfits]
    · have hfits : n.Fits := ⟨by omega, by omega⟩
      simp [hsign, hlarge, hfits, hvalue, n.digits.nonempty]

/-- Every text that is read as an integer is that of one of 64 bits. -/
theorem exists_of_readInteger {cs : List Char} {i : Int} (h : readInteger cs = some i) :
    ∃ n : WrittenInteger, n.text = cs ∧ n.Fits ∧ n.value = i := by
  obtain ⟨sign, rest, rfl, hsplit⟩ := Number.exists_of_splitSign cs
  obtain ⟨ds, behind, hspan⟩ : ∃ ds behind, Number.spanDigits rest = (ds, behind) := ⟨_, _, rfl⟩
  have hdigits : ds ≠ [] ∧ behind = [] := by
    simp only [readInteger, hsplit, hspan] at h
    split at h
    · cases h
    next hend => simpa [not_or] using hend
  obtain ⟨digits, rfl, rfl⟩ := Number.Digits.exists_of_spanDigits hspan hdigits.1
  obtain rfl := hdigits.2
  have hread := readInteger_text ⟨sign, digits⟩
  rw [text, ← digits.text.append_nil, h] at hread
  by_cases hfits : (⟨sign, digits⟩ : WrittenInteger).Fits
  · rw [if_pos hfits] at hread
    exact ⟨⟨sign, digits⟩, by simp [text], hfits, (Option.some.inj hread).symm⟩
  · rw [if_neg hfits] at hread
    cases hread

/-! ### Plain integers -/

/-- An integer is printed as it is usually written. -/
theorem toList_toString (i : Int) : (toString i).toList = (ofInt i).text := by
  rw [text, ofInt, Digits.text_ofNat]
  cases i with
  | ofNat n => exact String.toList_ofList
  | negSucc n =>
      have hneg : (Int.negSucc n) < 0 := Int.negSucc_lt_zero n
      rw [if_pos hneg]
      exact (String.toList_append ..).trans (congrArg ('-' :: ·) String.toList_ofList)

/-- What is written tells the sign and the digits. -/
theorem eq_of_text {m n : WrittenInteger} (h : m.text = n.text) :
    m.sign = n.sign ∧ m.digits.values = n.digits.values := by
  have hsplit : Binary.splitSign m.text = Binary.splitSign n.text := by rw [h]
  rw [m.splitSign_text, n.splitSign_text] at hsplit
  have hdigits : m.digits.text = n.digits.text := (Prod.mk.inj hsplit).2
  have hsigns : signText m.sign = signText n.sign := by
    rw [text, text, hdigits] at h
    exact List.append_cancel_right h
  constructor
  · rcases hm : m.sign with _ | _ | _ <;> rcases hn : n.sign with _ | _ | _ <;>
      simp_all [signText]
  · rw [← m.digits.map_digitValue_text, hdigits, n.digits.map_digitValue_text]

/-- An integer is printed as it was written exactly if it was written as usual. -/
theorem text_eq_iff (n : WrittenInteger) : n.text = (toString n.value).toList ↔ n.IsPlain := by
  rw [toList_toString]
  constructor
  · intro h
    obtain ⟨hsign, hdigits⟩ := eq_of_text h
    have hvalues : n.digits.values = Number.Double.digitsOf n.value.natAbs := hdigits
    have hsign : n.sign = if n.value < 0 then some true else none := hsign
    refine ⟨?_, fun hhead => ?_⟩
    · rw [hsign]
      split <;> simp
    · have hzero : n.value.natAbs = 0 := by
        by_contra hne
        exact Number.head_digitsOf hne (hvalues ▸ hhead)
      rw [hzero] at hvalues
      refine ⟨hvalues, ?_⟩
      rw [hsign, if_neg (by omega)]
  · rintro ⟨hplus, hzero⟩
    have hrow := Number.digitsOf_ofDigits n.digits.small n.digits.nonempty
      fun hhead => (hzero hhead).1
    have habs : n.value.natAbs = Number.ofDigits n.digits.values := by
      rw [value]
      split <;> simp
    have hsign : n.sign = if n.value < 0 then some true else none := by
      cases hsign : n.sign with
      | none =>
          have hvalue := value_of_no_minus (n := n) (by simp [hsign])
          rw [if_neg (by omega)]
      | some minus =>
          cases minus with
          | false => exact absurd hsign hplus
          | true =>
              have hpos : Number.ofDigits n.digits.values ≠ 0 := by
                intro hofDigits
                rw [hofDigits, Number.digitsOf_of_lt (by decide)] at hrow
                have hnone := (hzero (by rw [← hrow]; rfl)).2
                exact absurd (hsign.symm.trans hnone) nofun
              have hvalue := value_of_minus hsign
              rw [if_pos (by omega)]
    have hdigits : (ofInt n.value).digits.text = n.digits.text := by
      rw [Digits.text, Digits.text, ofInt]
      change (Number.Double.digitsOf n.value.natAbs).map _ = _
      rw [habs, hrow]
    rw [text, text, hdigits, hsign]
    rfl

end WrittenInteger

/-! ## What texts spell -/

/-- A truth value as a word. -/
def wordOf (b : Bool) : String := if b then "true" else "false"

/-- The values that texts spell.  A truth value or the name of a real may be in any case, and an
integer of 64 bits is no decimal. -/
inductive Spells (s : String) : Scalar → Prop
  | word (b : Bool) (h : lower s = (wordOf b).toList) : Spells s (.bool b)
  | integer (n : WrittenInteger) (h : n.text = s.toList) (fits : n.Fits) :
      Spells s (.integer n.value)
  | decimal (n : LooseNumeral) (h : n.text = s.toList)
      (large : ∀ i : WrittenInteger, i.text = s.toList → ¬ i.Fits) :
      Spells s (.real (.ofLiteral n.literal))
  | infinite (sign : Option Bool) (name : List Char) (h : signText sign ++ name = s.toList)
      (hname : name.map Char.toLower = "inf".toList ∨
        name.map Char.toLower = "infinity".toList) :
      Spells s (.real (.infinite (sign == some true)))
  | notNumber (sign : Option Bool) (name : List Char) (h : signText sign ++ name = s.toList)
      (hname : name.map Char.toLower = "nan".toList) : Spells s (.real .nan)

section Spelling

variable {s : String} {sign : Option Bool} {cs : List Char}

theorem toLower_of_isDigit {c : Char} (h : c.isDigit = true) : c.toLower = c := by
  have all : ∀ d < 10, (Number.Layout.digitChar d).toLower = Number.Layout.digitChar d := by decide
  obtain ⟨hchar, hsmall⟩ := Number.digitChar_digitValue h
  rw [← hchar]
  exact all _ hsmall

/-- What begins with neither `t` nor `f` behind its sign is no word. -/
theorem lower_ne_wordOf (hs : signText sign ++ cs = s.toList)
    (hcs : ∀ c ∈ cs.head?, c.toLower ≠ 't' ∧ c.toLower ≠ 'f') (b : Bool) :
    lower s ≠ (wordOf b).toList := by
  intro hword
  rw [lower, ← hs] at hword
  have hhead := congrArg List.head? hword
  cases sign with
  | some minus =>
      have hlower : some (if minus then '-' else '+').toLower = (wordOf b).toList.head? := hhead
      cases minus <;> cases b <;> exact absurd hlower (by decide)
  | none =>
      cases cs with
      | nil => cases b <;> exact absurd hhead (by decide)
      | cons c rest =>
          obtain ⟨ht, hf⟩ := hcs c rfl
          have hlower : some c.toLower = (wordOf b).toList.head? := hhead
          cases b with
          | true => exact ht (Option.some.inj hlower)
          | false => exact hf (Option.some.inj hlower)

/-- A text that is no word is taken for a number if it reads as one. -/
theorem scalarOf_of_ne_word (h : ∀ b, lower s ≠ (wordOf b).toList) :
    scalarOf s = match readInteger s.toList with
      | some i => .integer i
      | none => match Binary.read s.toList with
        | some r => .real r
        | none => .text s := by
  have htrue : lower s ≠ "true".toList := h true
  have hfalse : lower s ≠ "false".toList := h false
  exact (if_neg htrue).trans (if_neg hfalse)

theorem scalarOf_of_integer (n : WrittenInteger) (h : n.text = s.toList) (fits : n.Fits) :
    scalarOf s = .integer n.value := by
  have hword := lower_ne_wordOf (s := s) h fun c hc => by
    have hdigit := n.head_digits c hc
    rw [toLower_of_isDigit hdigit]
    constructor <;> rintro rfl <;> exact absurd hdigit (by decide)
  rw [scalarOf_of_ne_word hword, ← h, n.readInteger_text, if_pos fits]

theorem named_eq_none {negative : Bool} (h : ∀ c ∈ cs.head?, c ≠ 'i' ∧ c ≠ 'n') :
    Binary.named negative cs = none := by
  have hne : ∀ c rest, (c = 'i' ∨ c = 'n') → cs ≠ c :: rest := by
    rintro c rest hc rfl
    rcases hc with rfl | rfl
    · exact (h _ rfl).1 rfl
    · exact (h _ rfl).2 rfl
  rw [Binary.named, if_neg (not_or.mpr ⟨hne _ _ (.inl rfl), hne _ _ (.inl rfl)⟩),
    if_neg (hne _ _ (.inr rfl))]

/-- A loose numeral is read as the number nearest to it. -/
theorem read_text (n : LooseNumeral) : Binary.read n.text = some (.ofLiteral n.literal) := by
  obtain ⟨c, rest, hbody, hc⟩ := n.body_eq_cons
  have hnamed : Binary.named (n.sign == some true) (n.body.map Char.toLower) = none := by
    refine named_eq_none fun d hd => ?_
    rw [hbody] at hd
    obtain rfl : c.toLower = d := Option.some.inj hd
    rcases hc with hc | rfl
    · rw [toLower_of_isDigit hc]
      constructor <;> rintro rfl <;> exact absurd hc (by decide)
    · decide
  have hsplit : Binary.splitSign n.text = (n.sign == some true, n.body) :=
    Number.splitSign_text n.sign n.head_body
  rw [Binary.read, hsplit]
  simp only [hnamed, n.ofLoose_text, Option.map_some]

theorem scalarOf_of_decimal (n : LooseNumeral) (h : n.text = s.toList)
    (large : ∀ i : WrittenInteger, i.text = s.toList → ¬ i.Fits) :
    scalarOf s = .real (.ofLiteral n.literal) := by
  have hword := lower_ne_wordOf (s := s) h fun c hc => by
    obtain ⟨d, rest, hbody, hd⟩ := n.body_eq_cons
    rw [hbody] at hc
    obtain rfl := Option.some.inj hc
    rcases hd with hd | rfl
    · rw [toLower_of_isDigit hd]
      constructor <;> rintro rfl <;> exact absurd hd (by decide)
    · decide
  have hinteger : readInteger s.toList = none := by
    cases hread : readInteger s.toList with
    | none => rfl
    | some i =>
        obtain ⟨m, hm, hfits, _⟩ := WrittenInteger.exists_of_readInteger hread
        exact absurd hfits (large m hm)
  rw [scalarOf_of_ne_word hword, hinteger, ← h, read_text]

/-- The names of reals begin with `i` or `n`. -/
theorem head_name {name : List Char} {r : Binary} {negative : Bool}
    (h : Binary.named negative (name.map Char.toLower) = some r) :
    ∃ c rest, name = c :: rest ∧ (c.toLower = 'i' ∨ c.toLower = 'n') := by
  cases name with
  | nil => exact absurd h nofun
  | cons c rest =>
      refine ⟨c, rest, rfl, ?_⟩
      by_contra hne
      rw [named_eq_none] at h
      · cases h
      · rintro d hd
        obtain rfl : c.toLower = d := Option.some.inj hd
        exact not_or.mp hne

/-- A name of a real is taken for it, in any case. -/
theorem scalarOf_of_name {name : List Char} {r : Binary} (hs : signText sign ++ name = s.toList)
    (h : Binary.named (sign == some true) (name.map Char.toLower) = some r) :
    scalarOf s = .real r := by
  obtain ⟨c, rest, rfl, hc⟩ := head_name h
  have hne : ∀ d : Char, d.toLower ≠ 'i' → d.toLower ≠ 'n' → c ≠ d := by
    rintro d hi hn rfl
    exact hc.elim hi hn
  have hsplit : Binary.splitSign s.toList = (sign == some true, c :: rest) := by
    rw [← hs]
    refine Number.splitSign_text sign ?_
    rintro d hd
    obtain rfl := Option.some.inj hd
    exact ⟨hne _ (by decide) (by decide), hne _ (by decide) (by decide)⟩
  have hword := lower_ne_wordOf (s := s) hs fun d hd => by
    obtain rfl := Option.some.inj hd
    rcases hc with hc | hc <;> rw [hc] <;> decide
  have hinteger : readInteger s.toList = none := by
    have hspan : Number.spanDigits (c :: rest) = ([], c :: rest) := by
      have hdigit : c.isDigit = false := by
        by_contra hdigit
        have hlower := toLower_of_isDigit (by simpa using hdigit)
        rw [hlower] at hc
        rcases hc with rfl | rfl <;> exact hdigit (by decide)
      simp [Number.spanDigits, hdigit]
    simp only [readInteger, hsplit, hspan]
    simp
  rw [scalarOf_of_ne_word hword, hinteger, Binary.read, hsplit]
  simp only [h]

/-- What a text spells is what it is taken for. -/
theorem scalarOf_of_spells {x : Scalar} (h : Spells s x) : scalarOf s = x := by
  cases h with
  | word b h =>
      rw [scalarOf, h]
      cases b with
      | true => rfl
      | false => rfl
  | integer n h fits => exact scalarOf_of_integer n h fits
  | decimal n h large => exact scalarOf_of_decimal n h large
  | infinite sign name h hname => exact scalarOf_of_name h (if_pos hname)
  | notNumber sign name h hname =>
      refine scalarOf_of_name h ?_
      rw [hname]
      rfl

/-- Only names and loose numerals are read as reals. -/
theorem spells_of_read {r : Binary} (hread : Binary.read s.toList = some r)
    (hinteger : readInteger s.toList = none) : Spells s (.real r) := by
  obtain ⟨sign, name, hs, hsplit⟩ := Number.exists_of_splitSign s.toList
  simp only [Binary.read, hsplit] at hread
  split at hread
  · next r' hnamed =>
      obtain rfl := Option.some.inj hread
      rw [Binary.named] at hnamed
      split at hnamed
      · next hname =>
          obtain rfl := Option.some.inj hnamed
          exact .infinite sign name hs.symm hname
      · split at hnamed
        · next hname =>
            obtain rfl := Option.some.inj hnamed
            exact .notNumber sign name hs.symm hname
        · cases hnamed
  · obtain ⟨l, hloose, rfl⟩ := Option.map_eq_some_iff.mp hread
    obtain ⟨n, htext, rfl⟩ := LooseNumeral.exists_of_ofLoose hloose
    refine .decimal n htext fun i hi hfits => ?_
    rw [← hi, i.readInteger_text, if_pos hfits] at hinteger
    cases hinteger

/-- A text that is not taken for itself spells what it is taken for. -/
theorem spells_of_scalarOf (h : scalarOf s ≠ .text s) : Spells s (scalarOf s) := by
  by_cases hword : ∃ b, lower s = (wordOf b).toList
  · obtain ⟨b, hb⟩ := hword
    have hspells := Spells.word b hb
    rwa [scalarOf_of_spells hspells]
  · have hvalue := scalarOf_of_ne_word fun b hb => hword ⟨b, hb⟩
    cases hinteger : readInteger s.toList with
    | some i =>
        obtain ⟨n, htext, hfits, rfl⟩ := WrittenInteger.exists_of_readInteger hinteger
        rw [scalarOf_of_integer n htext hfits]
        exact .integer n htext hfits
    | none =>
        cases hread : Binary.read s.toList with
        | none => exact absurd (by rw [hvalue, hinteger, hread]) h
        | some r =>
            rw [show scalarOf s = .real r by rw [hvalue, hinteger, hread]]
            exact spells_of_read hread hinteger

end Spelling

/-! ## The characters of values -/

/-- May the character stand in a text that spells a value? -/
def isValueChar (c : Char) : Bool := c.isAlphanum || c == '+' || c == '-' || c == '.'

theorem isValueChar_of_toLower {c : Char} (h : c.toLower.isAlpha = true) :
    isValueChar c = true := by
  have halpha : c.isAlpha = true := by
    by_cases hupper : c.val ≥ 'A'.val ∧ c.val ≤ 'Z'.val
    · exact Bool.or_eq_true_iff.mpr (.inl (decide_eq_true hupper))
    · have hlower : c.toLower = c := dif_neg hupper
      rwa [hlower] at h
  simp [isValueChar, Char.isAlphanum, halpha]

theorem isValueChar_of_word {cs : List Char} {word : String} (h : cs.map Char.toLower = word.toList)
    (hword : word.toList.all Char.isAlpha = true) : ∀ c ∈ cs, isValueChar c = true := by
  intro c hc
  refine isValueChar_of_toLower (List.all_eq_true.mp hword _ ?_)
  rw [← h]
  exact List.mem_map_of_mem hc

theorem isValueChar_of_digits (ds : Digits) : ∀ c ∈ ds.text, isValueChar c = true := by
  intro c hc
  simp [isValueChar, Char.isAlphanum, Digits.isDigit_of_mem_text hc]

theorem isValueChar_of_row (row : Option Digits) :
    ∀ c ∈ Number.rowText row, isValueChar c = true := by
  cases row with
  | none => exact nofun
  | some ds => exact isValueChar_of_digits ds

theorem isValueChar_of_sign (sign : Option Bool) : ∀ c ∈ signText sign, isValueChar c = true := by
  cases sign with
  | none => exact nofun
  | some minus =>
      intro c hc
      obtain rfl := List.mem_singleton.mp hc
      cases minus <;> rfl

theorem isValueChar_of_tail (n : LooseNumeral) : ∀ c ∈ n.tail, isValueChar c = true := by
  intro c hc
  rcases List.mem_append.mp hc with hc | hc
  · cases hfraction : n.fraction with
    | none => exact absurd (hfraction ▸ hc) nofun
    | some row =>
        rw [hfraction] at hc
        rcases List.mem_cons.mp hc with rfl | hc
        · decide
        · exact isValueChar_of_row row c hc
  · cases hexponent : n.exponent with
    | none => exact absurd (hexponent ▸ hc) nofun
    | some e =>
        rw [hexponent] at hc
        rcases List.mem_cons.mp hc with rfl | hc
        · cases e.capital <;> decide
        · rcases List.mem_append.mp hc with hc | hc
          · exact isValueChar_of_sign e.sign c hc
          · exact isValueChar_of_digits e.digits c hc

/-- A text that spells a value has only letters, digits, signs and points. -/
theorem isValueChar_of_spells {s : String} {x : Scalar} (h : Spells s x) :
    ∀ c ∈ s.toList, isValueChar c = true := by
  intro c hc
  cases h with
  | word b h => exact isValueChar_of_word h (by cases b <;> rfl) c hc
  | integer n h fits =>
      rw [← h] at hc
      rcases List.mem_append.mp hc with hc | hc
      · exact isValueChar_of_sign _ c hc
      · exact isValueChar_of_digits _ c hc
  | decimal n h large =>
      rw [← h] at hc
      rcases List.mem_append.mp hc with hc | hc
      · exact isValueChar_of_sign _ c hc
      · rcases List.mem_append.mp hc with hc | hc
        · exact isValueChar_of_row _ c hc
        · exact isValueChar_of_tail n c hc
  | infinite sign name h hname =>
      rw [← h] at hc
      rcases List.mem_append.mp hc with hc | hc
      · exact isValueChar_of_sign _ c hc
      · rcases hname with hname | hname
        · exact isValueChar_of_word hname rfl c hc
        · exact isValueChar_of_word hname rfl c hc
  | notNumber sign name h hname =>
      rw [← h] at hc
      rcases List.mem_append.mp hc with hc | hc
      · exact isValueChar_of_sign _ c hc
      · exact isValueChar_of_word hname rfl c hc

end AlarmMonitor.Settings.Environment
