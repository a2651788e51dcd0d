import AlarmMonitor.Json.Printer
import AlarmMonitor.Proofs.Json.Reading

/-!
# The compact text of a value

The text of a value is a text of a document, and that document denotes the value again.  Only
doubles need not come back as they were, so a value without doubles is determined by its text.

* `Document.Writes`: a document that is written as a value and denotes it;
* `exists_writes`: there is one for every value whose numbers can be read;
* `parse_text`: the text of a value is read as the value;
* `text_injective`: values with the same text are the same.
-/

set_option autoImplicit false

namespace AlarmMonitor.Json

open AlarmMonitor.Number (Numeral Literal Double Digits ofDigits_digitsOf)

/-! ## Numbers -/

namespace Number

/-- The number as which the text of a number is read. -/
def reread (n : Number) : Number := ((Literal.ofStrict n.text).bind ofLiteral).getD n

/-- Is the text of the number read as a number? -/
def IsReadable (n : Number) : Prop :=
  ∃ w : Numeral, w.text = n.text ∧ (ofLiteral w.literal).isSome = true

/-- Is the number an integer in range? -/
def IsInteger (n : Number) : Prop := ∃ i : Int, n = .int i ∧ inIntegerRange i = true

theorem reread_of_numeral {n m : Number} {w : Numeral} (htext : w.text = n.text)
    (h : ofLiteral w.literal = some m) : n.reread = m := by
  rw [reread, ← htext, w.ofStrict_text]
  simp [h]

theorem text_ofInt (i : Int) : (Numeral.ofInt i).text = text (.int i) := by
  have hwhole : (Numeral.ofInt i).whole.text = Nat.toDigits 10 i.natAbs := Digits.text_ofNat _
  by_cases hi : i < 0
  · simpa [Numeral.text, Numeral.tail, text, intText, hi, Numeral.ofInt] using hwhole
  · simpa [Numeral.text, Numeral.tail, text, intText, hi, Numeral.ofInt] using hwhole

theorem ofLiteral_ofInt {i : Int} (h : inIntegerRange i = true) :
    ofLiteral (Numeral.ofInt i).literal = some (.int i) := by
  have hvalue : (if decide (i < 0) = true then -(i.natAbs : Int) else i.natAbs) = i := by
    simp only [decide_eq_true_eq]
    omega
  rw [Numeral.literal_ofInt]
  simp only [ofLiteral, ofDigits_digitsOf, hvalue, h, Literal.isInteger]
  by_cases hi : i < 0
  · simp [show i ≠ 0 by omega]
  · simp [hi]

theorem IsInteger.isReadable {n : Number} (h : n.IsInteger) : n.IsReadable := by
  obtain ⟨i, rfl, hi⟩ := h
  exact ⟨.ofInt i, text_ofInt i, by simp [ofLiteral_ofInt hi]⟩

theorem IsInteger.reread_eq {n : Number} (h : n.IsInteger) : n.reread = n := by
  obtain ⟨i, rfl, hi⟩ := h
  exact reread_of_numeral (text_ofInt i) (ofLiteral_ofInt hi)

end Number

/-! ## Strings -/

theorem hexValue_digitChar {n : Nat} (h : n < 16) :
    Lexer.hexValue (Nat.digitChar n) = some n := by
  have all : ∀ m < 16, Lexer.hexValue (Nat.digitChar m) = some m := by decide
  exact all n h

/-- The lower case digit of a number below 16. -/
def HexDigit.ofNat (n : Nat) (h : n < 16) : HexDigit :=
  ⟨Nat.digitChar n, by simp [hexValue_digitChar h]⟩

theorem HexDigit.value_ofNat {n : Nat} (h : n < 16) : (HexDigit.ofNat n h).value = n := by
  simp [HexDigit.value, HexDigit.ofNat, hexValue_digitChar h]

/-- Every character is written as one part of a literal. -/
theorem exists_piece (c : Char) :
    ∃ p : Piece, p.text = escapeChar c ∧ ∀ t : Lexer.Content, t.lead = none →
      p.addTo t = t.push c := by
  unfold escapeChar
  split
  · next h => exact ⟨.short '"' c (by rw [h]; rfl), rfl, fun _ _ => rfl⟩
  split
  · next h => exact ⟨.short '\\' c (by rw [h]; rfl), rfl, fun _ _ => rfl⟩
  split
  · next h => exact ⟨.short 'b' c (by rw [h]; rfl), rfl, fun _ _ => rfl⟩
  split
  · next h => exact ⟨.short 'f' c (by rw [h]; rfl), rfl, fun _ _ => rfl⟩
  split
  · next h => exact ⟨.short 'n' c (by rw [h]; rfl), rfl, fun _ _ => rfl⟩
  split
  · next h => exact ⟨.short 'r' c (by rw [h]; rfl), rfl, fun _ _ => rfl⟩
  split
  · next h => exact ⟨.short 't' c (by rw [h]; rfl), rfl, fun _ _ => rfl⟩
  split
  · next hcontrol =>
      have digit : ∀ n, n % 16 < 16 := fun n => Nat.mod_lt n (by decide)
      refine ⟨.unit (.ofNat _ (digit (c.toNat / 4096))) (.ofNat _ (digit (c.toNat / 256)))
        (.ofNat _ (digit (c.toNat / 16))) (.ofNat _ (digit c.toNat)), rfl, ?_⟩
      intro t ht
      have hvalue : ((c.toNat / 4096 % 16 * 16 + c.toNat / 256 % 16) * 16 + c.toNat / 16 % 16) * 16 +
          c.toNat % 16 = c.toNat := by omega
      simp only [Piece.addTo, HexDigit.value_ofNat, hvalue, Lexer.Content.pushUnit,
        Lexer.Content.push, ht]
      simp [show ¬ 0xD800 ≤ c.toNat by omega, show ¬ 0xDC00 ≤ c.toNat by omega]
  · next hquote hbackslash _ _ _ _ _ hcontrol =>
      exact ⟨.plain c ⟨hquote, hbackslash, Nat.not_lt.mp hcontrol⟩, rfl, fun _ _ => rfl⟩

/-- Every text is written as a literal that denotes it. -/
theorem exists_quotation (s : String) :
    ∃ q : Quotation, q.text = stringText s ∧ q.meaning = some s := by
  have key : ∀ cs : List Char, ∃ q : Quotation, q.flatMap Piece.text = cs.flatMap escapeChar ∧
      ∀ t : Lexer.Content, t.lead = none →
        q.foldl Piece.addTo t = ⟨cs.reverse ++ t.chars, t.valid, none⟩ := by
    intro cs
    induction cs with
    | nil =>
        refine ⟨[], rfl, ?_⟩
        rintro ⟨chars, valid, lead⟩ rfl
        rfl
    | cons c cs ih =>
        obtain ⟨p, hp, hadd⟩ := exists_piece c
        obtain ⟨q, hq, hfold⟩ := ih
        refine ⟨p :: q, by simp [hp, hq], ?_⟩
        intro t ht
        rw [List.foldl_cons, hadd t ht, hfold _ rfl]
        simp [Lexer.Content.push, ht]
  obtain ⟨q, htext, hfold⟩ := key s.toList
  refine ⟨q, by rw [Quotation.text, stringText, htext], ?_⟩
  simp [Quotation.meaning, Quotation.content, hfold, Lexer.Content.empty]

/-! ## Values -/

namespace Value

mutual

/-- The value with other numbers in the places of its own. -/
def mapNumbers (f : Number → Number) : Value → Value
  | .null => .null
  | .bool b => .bool b
  | .number n => .number (f n)
  | .string s => .string s
  | .array items => .array (mapItems f items)
  | .object members => .object (mapMembers f members)

/-- Items with other numbers. -/
def mapItems (f : Number → Number) : List Value → List Value
  | [] => []
  | v :: rest => v.mapNumbers f :: mapItems f rest

/-- Members with other numbers. -/
def mapMembers (f : Number → Number) : List (String × Value) → List (String × Value)
  | [] => []
  | (name, v) :: rest => (name, v.mapNumbers f) :: mapMembers f rest

end

theorem mapItems_eq_map (f : Number → Number) (items : List Value) :
    mapItems f items = items.map (mapNumbers f) := by
  induction items with
  | nil => rfl
  | cons v rest ih => rw [mapItems, ih, List.map_cons]

theorem mapMembers_eq_map (f : Number → Number) (members : List (String × Value)) :
    mapMembers f members = members.map fun m => (m.1, m.2.mapNumbers f) := by
  induction members with
  | nil => rfl
  | cons m rest ih => rw [mapMembers, ih, List.map_cons]

/-- A value stays as it is if its numbers do. -/
theorem mapNumbers_eq_self {f : Number → Number} {v : Value}
    (h : v.EveryNumber fun n => f n = n) : v.mapNumbers f = v := by
  induction v with
  | null | bool | string => rfl
  | number n =>
      cases h with
      | number kind => rw [mapNumbers, kind]
  | array items ih =>
      cases h with
      | array parts =>
          rw [mapNumbers, mapItems_eq_map, List.map_congr_left fun v hv => ih v hv (parts v hv)]
          simp
  | object members ih =>
      cases h with
      | object parts =>
          have hmember : ∀ m ∈ members, (m.1, m.2.mapNumbers f) = m := fun m hm =>
            Prod.ext rfl (ih m hm (parts m hm))
          rw [mapNumbers, mapMembers_eq_map, List.map_congr_left hmember]
          simp

theorem EveryNumber.imp {p q : Number → Prop} (hpq : ∀ n, p n → q n) {v : Value}
    (h : v.EveryNumber p) : v.EveryNumber q := by
  induction v with
  | null => exact .null
  | bool b => exact .bool b
  | string s => exact .string s
  | number n =>
      cases h with
      | number kind => exact .number (hpq n kind)
  | array items ih =>
      cases h with
      | array parts => exact .array fun v hv => ih v hv (parts v hv)
  | object members ih =>
      cases h with
      | object parts => exact .object fun m hm => ih m hm (parts m hm)

/-- A value without doubles stays as it is if its numbers are read again. -/
theorem reread_of_integers {v : Value} (h : v.EveryNumber Number.IsInteger) :
    v.mapNumbers Number.reread = v :=
  mapNumbers_eq_self (h.imp fun _ hn => hn.reread_eq)

theorem lookup_mapMembers (f : Number → Number) (name : String) (members : List (String × Value)) :
    lookup name (mapMembers f members) = (lookup name members).map (mapNumbers f) := by
  induction members with
  | nil => rfl
  | cons m rest ih =>
      simp only [mapMembers, lookup]
      split
      · rfl
      · exact ih

end Value

/-! ## Documents of values -/

/-- The document is written as the value and denotes it, its numbers read again. -/
structure Document.Writes (d : Document) (v : Value) : Prop where
  text : d.lexemes.flatMap Lexeme.text = v.tokens.flatMap Token.text
  tokens : d.tokens = (v.mapNumbers Number.reread).tokens
  value : v.IsSorted → ∀ room, v.depth ≤ room → d.value? room = some (v.mapNumbers Number.reread)

/-- The member is written as a name and a value, and denotes them. -/
structure Document.WritesMember (m : Quotation × Document) (n : String × Value) : Prop where
  nameText : m.1.text = stringText n.1
  name : m.1.meaning = some n.1
  value : m.2.Writes n.2

section Rows

open Document

variable {ds : List Document} {items : List Value} {ms : List (Quotation × Document)}
  {members : List (String × Value)}

theorem itemLexemes_text (h : List.Forall₂ Writes ds items) :
    (itemLexemes ds).flatMap Lexeme.text = (Value.itemTokens items).flatMap Token.text := by
  induction h with
  | nil => rfl
  | cons hd hrest ih =>
      cases hrest with
      | nil => simp [itemLexemes, Value.itemTokens, hd.text]
      | cons he hrest =>
          simp only [itemLexemes, Value.itemTokens, List.flatMap_append, List.flatMap_cons, hd.text,
            ih]
          rfl

theorem itemTokens_eq (h : List.Forall₂ Writes ds items) :
    itemTokens ds = Value.itemTokens (Value.mapItems Number.reread items) := by
  induction h with
  | nil => rfl
  | cons hd hrest ih =>
      cases hrest with
      | nil => exact hd.tokens
      | cons he hrest =>
          simp only [Value.mapItems] at ih ⊢
          rw [itemTokens_cons_cons, hd.tokens, ih]
          exact (Value.itemTokens.eq_3 _ _ (by simp)).symm

theorem itemValues?_eq (h : List.Forall₂ Writes ds items) (hsorted : ∀ v ∈ items, v.IsSorted)
    {room : Nat} (hroom : ∀ v ∈ items, v.depth ≤ room) :
    itemValues? room ds = some (Value.mapItems Number.reread items) := by
  induction h with
  | nil => rfl
  | @cons d v ds items hd hrest ih =>
      have hv := hd.value (hsorted v (by simp)) room (hroom v (by simp))
      have hvs := ih (fun x hx => hsorted x (List.mem_cons_of_mem _ hx))
        fun x hx => hroom x (List.mem_cons_of_mem _ hx)
      simp [itemValues?, Value.mapItems, hv, hvs]

theorem memberLexemes_text (h : List.Forall₂ WritesMember ms members) :
    (memberLexemes ms).flatMap Lexeme.text = (Value.memberTokens members).flatMap Token.text := by
  induction h with
  | nil => rfl
  | @cons m n ms members hm hrest ih =>
      cases hrest with
      | nil =>
          simp [memberLexemes, Value.memberTokens, Lexeme.text, Token.text, Lexeme.token,
            hm.nameText, hm.value.text]
      | cons he hrest =>
          simp only [memberLexemes, Value.memberTokens, List.flatMap_append, List.flatMap_cons,
            hm.value.text, ih, Lexeme.text, Token.text, Lexeme.token, hm.nameText]
          rfl

theorem memberTokens_eq (h : List.Forall₂ WritesMember ms members) :
    memberTokens ms = Value.memberTokens (Value.mapMembers Number.reread members) := by
  induction h with
  | nil => rfl
  | @cons m n ms members hm hrest ih =>
      cases hrest with
      | nil =>
          rw [memberTokens_singleton, hm.name, hm.value.tokens]
          rfl
      | cons he hrest =>
          simp only [Value.mapMembers] at ih ⊢
          rw [memberTokens_cons_cons, hm.name, hm.value.tokens, ih]
          exact (Value.memberTokens.eq_3 _ _ _ (by simp)).symm

theorem memberValues?_eq (h : List.Forall₂ WritesMember ms members)
    (hsorted : ∀ m ∈ members, m.2.IsSorted) {room : Nat}
    (hroom : ∀ m ∈ members, m.2.depth ≤ room) :
    memberValues? room ms = some (Value.mapMembers Number.reread members) := by
  induction h with
  | nil => rfl
  | @cons m n ms members hm hrest ih =>
      have hv := hm.value.value (hsorted n (by simp)) room (hroom n (by simp))
      have hvs := ih (fun x hx => hsorted x (List.mem_cons_of_mem _ hx))
        fun x hx => hroom x (List.mem_cons_of_mem _ hx)
      simp [memberValues?, Value.mapMembers, hm.name, hv, hvs]

end Rows

theorem exists_row {α β : Type} {r : α → β → Prop} {ys : List β} (h : ∀ y ∈ ys, ∃ x, r x y) :
    ∃ xs, List.Forall₂ r xs ys := by
  induction ys with
  | nil => exact ⟨[], .nil⟩
  | cons y ys ih =>
      obtain ⟨x, hx⟩ := h y (by simp)
      obtain ⟨xs, hxs⟩ := ih fun z hz => h z (List.mem_cons_of_mem _ hz)
      exact ⟨x :: xs, .cons hx hxs⟩

theorem Value.Ascending.mapMembers {members : List (String × Value)} (h : Ascending members)
    (f : Number → Number) : Ascending (mapMembers f members) := by
  rw [mapMembers_eq_map]
  exact List.pairwise_map.mpr h

/-- A value is written as a document is that denotes it, if its numbers can be read. -/
theorem exists_writes {v : Value} (h : v.EveryNumber Number.IsReadable) :
    ∃ d : Document, d.Writes v := by
  induction v with
  | null => exact ⟨.null, rfl, rfl, fun _ _ _ => rfl⟩
  | bool b => exact ⟨.bool b, rfl, rfl, fun _ _ _ => rfl⟩
  | number n =>
      cases h with
      | number kind =>
          obtain ⟨w, htext, hsome⟩ := kind
          obtain ⟨m, hm⟩ := Option.isSome_iff_exists.mp hsome
          have hreread := Number.reread_of_numeral htext hm
          refine ⟨.number w, ?_, ?_, ?_⟩
          · simp [Document.lexemes, Lexeme.text, Value.tokens, Token.text, htext]
          · simp [Document.tokens, Document.lexemes, Lexeme.token, Value.mapNumbers, Value.tokens,
              hm, hreread]
          · intro _ room _
            simp [Document.value?, Value.mapNumbers, hm, hreread]
  | string s =>
      obtain ⟨q, htext, hmeaning⟩ := exists_quotation s
      refine ⟨.string q, ?_, ?_, ?_⟩
      · simp [Document.lexemes, Lexeme.text, Value.tokens, Token.text, htext]
      · simp [Document.tokens, Document.lexemes, Lexeme.token, Value.mapNumbers, Value.tokens,
          hmeaning]
      · intro _ room _
        simp [Document.value?, Value.mapNumbers, hmeaning]
  | array items ih =>
      cases h with
      | array parts =>
          obtain ⟨ds, hds⟩ := exists_row fun v hv => ih v hv (parts v hv)
          refine ⟨.array ds, ?_, ?_, ?_⟩
          · simp [Document.lexemes, Value.tokens, itemLexemes_text hds, Lexeme.text, Token.text,
              Lexeme.token]
          · have htokens := itemTokens_eq hds
            simp only [Document.itemTokens] at htokens
            simp [Document.tokens, Document.lexemes, Value.mapNumbers, Value.tokens, Lexeme.token,
              htokens]
          · intro hsorted room hroom
            cases hsorted with
            | array sorted =>
                cases room with
                | zero => simp [Value.depth] at hroom
                | succ room =>
                    have hdepth := Value.itemsDepth_le_iff.mp (Nat.le_of_succ_le_succ hroom)
                    simp [Document.value?, Value.mapNumbers, itemValues?_eq hds sorted hdepth]
  | object members ih =>
      cases h with
      | object parts =>
          have hmember : ∀ n ∈ members, ∃ m, Document.WritesMember m n := by
            intro n hn
            obtain ⟨q, htext, hmeaning⟩ := exists_quotation n.1
            obtain ⟨d, hd⟩ := ih n hn (parts n hn)
            exact ⟨(q, d), htext, hmeaning, hd⟩
          obtain ⟨ms, hms⟩ := exists_row hmember
          refine ⟨.object ms, ?_, ?_, ?_⟩
          · simp [Document.lexemes, Value.tokens, memberLexemes_text hms, Lexeme.text, Token.text,
              Lexeme.token]
          · have htokens := memberTokens_eq hms
            simp only [Document.memberTokens] at htokens
            simp [Document.tokens, Document.lexemes, Value.mapNumbers, Value.tokens, Lexeme.token,
              htokens]
          · intro hsorted room hroom
            cases hsorted with
            | object order sorted =>
                cases room with
                | zero => simp [Value.depth] at hroom
                | succ room =>
                    have hdepth := Value.membersDepth_le_iff.mp (Nat.le_of_succ_le_succ hroom)
                    simp [Document.value?, Value.mapNumbers, memberValues?_eq hms sorted hdepth,
                      Value.ofMembers_of_ascending (order.mapMembers _)]

theorem toList_text (v : Value) : v.text.toList = v.tokens.flatMap Token.text := by
  simp [Value.text]

/-- The text of a value is read as the value, its numbers read again. -/
theorem parse_text {v : Value} (hsorted : v.IsSorted) (hnumbers : v.EveryNumber Number.IsReadable)
    (hdepth : v.depth ≤ maxDepth) : parse v.text = some (v.mapNumbers Number.reread) := by
  obtain ⟨d, hd⟩ := exists_writes hnumbers
  have hwritten : d.WrittenAs v.text := by
    rw [Document.WrittenAs, toList_text, ← hd.text]
    exact laid_compact _
  rw [parse_writtenAs hwritten, hd.value hsorted _ hdepth]

/-- The lexemes in the text of a value without doubles are those that it was written with. -/
theorem run_text {v : Value} (hnumbers : v.EveryNumber Number.IsInteger) :
    Lexer.run v.text.toList = some v.tokens := by
  obtain ⟨d, hd⟩ := exists_writes (hnumbers.imp fun _ hn => hn.isReadable)
  have hlaid : Laid d.lexemes v.text.toList := by
    rw [toList_text, ← hd.text]
    exact laid_compact _
  have htokens := hd.tokens
  rw [Value.reread_of_integers hnumbers] at htokens
  rw [Lexer.run_laid hlaid d.parted_lexemes, ← htokens]
  rfl

end AlarmMonitor.Json
