import AlarmMonitor.Json.Printer
import AlarmMonitor.Proofs.Number.Digits

/-!
# Compact texts have no control characters

The only place where a control character could stand in a compact text is inside a string literal,
and there it is escaped.

* `IsPrintable`: a text without control characters below the space;
* `Number.isPrintable_text`, `isPrintable_stringText`: how numbers and strings are written;
* `Value.isPrintable_text`: the compact text of any value.
-/

set_option autoImplicit false

namespace AlarmMonitor.Json

open AlarmMonitor.Number (Double Layout Decimal Digits lt_of_mem_digitsOf isDigit_digitChar)

/-- Are all characters at or above the space? -/
def IsPrintable (cs : List Char) : Prop := ∀ c ∈ cs, ' ' ≤ c

namespace IsPrintable

@[simp]
theorem nil : IsPrintable [] := nofun

@[simp]
theorem cons_iff {c : Char} {cs : List Char} :
    IsPrintable (c :: cs) ↔ ' ' ≤ c ∧ IsPrintable cs := List.forall_mem_cons

@[simp]
theorem append_iff {cs ds : List Char} :
    IsPrintable (cs ++ ds) ↔ IsPrintable cs ∧ IsPrintable ds := List.forall_mem_append

theorem flatMap {α : Type} {f : α → List Char} {xs : List α} (h : ∀ x ∈ xs, IsPrintable (f x)) :
    IsPrintable (xs.flatMap f) := by
  intro c hc
  obtain ⟨x, hx, hc⟩ := List.mem_flatMap.mp hc
  exact h x hx c hc

theorem subset {cs ds : List Char} (h : IsPrintable ds) (hsub : cs ⊆ ds) : IsPrintable cs :=
  fun c hc => h c (hsub hc)

end IsPrintable

/-! ## Numbers -/

theorem le_of_isDigit {c : Char} (h : c.isDigit = true) : ' ' ≤ c := by
  simp only [Char.isDigit, Bool.and_eq_true, decide_eq_true_eq] at h
  exact Nat.le_trans (by decide) h.1

theorem isPrintable_toDigits (n : Nat) : IsPrintable (Nat.toDigits 10 n) := by
  rw [← Digits.text_ofNat]
  exact fun c hc => le_of_isDigit (Digits.isDigit_of_mem_text hc)

theorem isPrintable_intText (i : Int) : IsPrintable (Number.intText i) := by
  unfold Number.intText
  split <;> simp [isPrintable_toDigits]

section Layout

variable {x : Decimal}

theorem isPrintable_digits (h : ∀ k ∈ x.digits, k < 10) :
    IsPrintable (x.digits.map Layout.digitChar) := by
  intro c hc
  obtain ⟨k, hk, rfl⟩ := List.mem_map.mp hc
  exact le_of_isDigit (isDigit_digitChar (h k hk))

theorem isPrintable_positional (l : Layout) (h : ∀ k ∈ x.digits, k < 10) :
    IsPrintable (l.positionalText x) := by
  have hdigits := isPrintable_digits h
  have hzeros : ∀ n, IsPrintable (List.replicate n '0') := by
    intro n c hc
    rw [List.eq_of_mem_replicate hc]
    decide
  simp only [Layout.positionalText]
  generalize x.digits.map Layout.digitChar = ds at hdigits
  split
  · simp [hzeros, hdigits]
  · split
    · split <;> simp [hzeros, hdigits]
    · simp [hdigits.subset (List.take_subset _ _), hdigits.subset (List.drop_subset _ _)]

theorem isPrintable_scientific (l : Layout) (h : ∀ k ∈ x.digits, k < 10) :
    IsPrintable (l.scientificText x) := by
  have hdigits := isPrintable_digits h
  have hsign : IsPrintable (if x.exponent < 0 then ['-'] else if l.plus then ['+'] else []) := by
    split
    · simp
    · split <;> simp
  simp only [Layout.scientificText]
  generalize x.digits.map Layout.digitChar = ds at hdigits
  match ds with
  | [] => simp [hsign, isPrintable_toDigits]
  | [_] | _ :: _ :: _ => simpa [hsign, isPrintable_toDigits] using hdigits

/-- The digits of a double are decimal ones. -/
theorem lt_of_mem_shortest (d : Double) : ∀ k ∈ d.shortest.digits, k < 10 := by
  have htrim : ∀ ds, Double.trimZeros ds ⊆ ds := by
    intro ds k hk
    exact List.mem_reverse.mp ((List.dropWhile_sublist _).subset (List.mem_reverse.mp hk))
  unfold Double.shortest
  split
  · simp
  · exact fun k hk => lt_of_mem_digitsOf _ k (htrim _ hk)

theorem isPrintable_layout (l : Layout) (d : Double) : IsPrintable (l.text d) := by
  have hpositional := isPrintable_positional l (lt_of_mem_shortest d)
  have hscientific := isPrintable_scientific l (lt_of_mem_shortest d)
  cases hrange : l.positional with
  | none =>
      simp only [Layout.text, hrange]
      split <;> simp [hpositional]
  | some range =>
      have hbody : IsPrintable (if range.1 ≤ d.shortest.exponent && d.shortest.exponent ≤ range.2
          then l.positionalText d.shortest else l.scientificText d.shortest) := by
        split
        · exact hpositional
        · exact hscientific
      simp only [Layout.text, hrange]
      split
      · exact IsPrintable.cons_iff.mpr ⟨by decide, hbody⟩
      · exact hbody

end Layout

theorem Number.isPrintable_text (n : Number) : IsPrintable n.text := by
  cases n with
  | int i => exact isPrintable_intText i
  | double d => exact isPrintable_layout Number.doubleLayout d

/-! ## Strings -/

theorem isPrintable_hex4 (n : Nat) : IsPrintable (hex4 n) := by
  have hdigit : ∀ k < 16, ' ' ≤ Nat.digitChar k := by decide
  have hall : ∀ m, ' ' ≤ Nat.digitChar (m % 16) := fun m => hdigit _ (Nat.mod_lt m (by decide))
  simp [hex4, hall]

/-- A control character is escaped. -/
theorem isPrintable_escapeChar (c : Char) : IsPrintable (escapeChar c) := by
  by_cases hcontrol : c.toNat < 0x20
  · unfold escapeChar
    split_ifs <;> simp [isPrintable_hex4]
  · have hc : ' ' ≤ c := Nat.not_lt.mp hcontrol
    unfold escapeChar
    split_ifs <;> simp [hc]

theorem isPrintable_stringText (s : String) : IsPrintable (stringText s) := by
  have hchars : IsPrintable (s.toList.flatMap escapeChar) :=
    IsPrintable.flatMap fun c _ => isPrintable_escapeChar c
  simp [stringText, hchars]

/-! ## Values -/

theorem Token.isPrintable_text (t : Token) : IsPrintable t.text := by
  cases t with
  | bool b => cases b <;> simp [text]
  | number n =>
      cases n with
      | none => exact .nil
      | some n => exact n.isPrintable_text
  | string s =>
      cases s with
      | none => exact .nil
      | some s => exact isPrintable_stringText s
  | openArray | closeArray | openObject | closeObject | comma | colon | null => simp [text]

/-- No control character stands in the compact text of a value. -/
theorem Value.isPrintable_text (v : Value) : IsPrintable v.text.toList := by
  rw [text, String.toList_ofList]
  exact IsPrintable.flatMap fun t _ => t.isPrintable_text

end AlarmMonitor.Json
