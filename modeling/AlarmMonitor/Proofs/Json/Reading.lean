import AlarmMonitor.Proofs.Json.Lexing

/-!
# The value of a text

A text of a document is read as the value that the document denotes, and as nothing if it denotes
none.  So whatever documents have in common with regard to their values, their texts have too.

* `Reader.foldlM_document`: what the reader makes of a document, with anything around it;
* `parse_writtenAs`: what the texts of a document are read as.
-/

set_option autoImplicit false

namespace AlarmMonitor.Json

namespace Document

/-- What the lexemes of a document denote. -/
def tokens (d : Document) : List Token := d.lexemes.map Lexeme.token

/-- What the lexemes of items denote. -/
def itemTokens (items : List Document) : List Token := (itemLexemes items).map Lexeme.token

/-- What the lexemes of members denote. -/
def memberTokens (members : List (Quotation × Document)) : List Token :=
  (memberLexemes members).map Lexeme.token

theorem tokens_array (items : List Document) :
    (array items).tokens = .openArray :: (itemTokens items ++ [.closeArray]) := by
  simp [tokens, itemTokens, lexemes, Lexeme.token]

theorem tokens_object (members : List (Quotation × Document)) :
    (object members).tokens = .openObject :: (memberTokens members ++ [.closeObject]) := by
  simp [tokens, memberTokens, lexemes, Lexeme.token]

theorem itemTokens_cons_cons (d e : Document) (items : List Document) :
    itemTokens (d :: e :: items) = d.tokens ++ .comma :: itemTokens (e :: items) := by
  simp [itemTokens, tokens, itemLexemes, Lexeme.token]

theorem memberTokens_singleton (name : Quotation) (d : Document) :
    memberTokens [(name, d)] = .string name.meaning :: .colon :: d.tokens := by
  simp [memberTokens, tokens, memberLexemes, Lexeme.token]

theorem memberTokens_cons_cons (name : Quotation) (d : Document) (m : Quotation × Document)
    (members : List (Quotation × Document)) :
    memberTokens ((name, d) :: m :: members) =
      .string name.meaning :: .colon :: (d.tokens ++ .comma :: memberTokens (m :: members)) := by
  simp [memberTokens, tokens, memberLexemes, Lexeme.token]

end Document

namespace Reader

open Document (itemTokens memberTokens itemTokens_cons_cons memberTokens_singleton
  memberTokens_cons_cons)

variable {rest : List Token} {outer : List Frame} {room : Nat}

theorem step_value {canClose : Bool} {t : Token} (h : t ≠ .closeArray) :
    step (.value canClose outer) t = readValue outer t := by
  simp [step, h]

theorem step_name {canClose : Bool} {members : List (String × Value)} (s : Option String) :
    step (.name canClose members outer) (.string s) = s.map fun s => .colon members s outer := by
  cases canClose <;> cases s <;> rfl

/-- The reader hands the value of the document to what waits for it. -/
def Reads (room : Nat) (d : Document) : Prop :=
  ∀ (canClose : Bool) (outer : List Frame) (rest : List Token), outer.length + room = maxDepth →
    (d.tokens ++ rest).foldlM step (.value canClose outer) =
      (d.value? room).bind fun v => rest.foldlM step (supply v outer)

/-- Items behind those that were read before. -/
theorem foldlM_items {items : List Document} (hne : items ≠ [])
    (h : ∀ d ∈ items, Reads room d) (hroom : outer.length + 1 + room = maxDepth)
    (canClose : Bool) (before : List Value) :
    (itemTokens items ++ .closeArray :: rest).foldlM step
        (.value canClose (.array before :: outer)) =
      (Document.itemValues? room items).bind fun vs =>
        rest.foldlM step (supply (.array (before.reverse ++ vs)) outer) := by
  induction items generalizing canClose before with
  | nil => exact absurd rfl hne
  | cons d items ih =>
      have hd := h d (by simp) canClose (.array before :: outer)
      cases items with
      | nil =>
          refine (hd _ hroom).trans ?_
          cases hv : d.value? room with
          | none => simp [Document.itemValues?, hv]
          | some v => simp [Document.itemValues?, hv, supply, step]
      | cons e items =>
          rw [itemTokens_cons_cons, List.append_assoc, hd _ hroom, Document.itemValues?]
          cases hv : d.value? room with
          | none => rfl
          | some v =>
              have hrest := ih (by simp) (fun d hd => h d (List.mem_cons_of_mem _ hd)) false
                (v :: before)
              simp only [Option.bind_some, List.cons_append, List.foldlM_cons, supply, step] at hrest ⊢
              refine hrest.trans ?_
              cases Document.itemValues? room (e :: items) with
              | none => rfl
              | some vs => simp

/-- Members behind those that were read before. -/
theorem foldlM_members {members : List (Quotation × Document)} (hne : members ≠ [])
    (h : ∀ m ∈ members, Reads room m.2) (hroom : outer.length + 1 + room = maxDepth)
    (canClose : Bool) (before : List (String × Value)) :
    (memberTokens members ++ .closeObject :: rest).foldlM step (.name canClose before outer) =
      (Document.memberValues? room members).bind fun ms =>
        rest.foldlM step (supply
          (.object (ms.foldl (fun acc m => Value.insertMember m.1 m.2 acc) before)) outer) := by
  induction members generalizing canClose before with
  | nil => exact absurd rfl hne
  | cons m members ih =>
      obtain ⟨name, d⟩ := m
      cases hs : name.meaning with
      | none =>
          cases members with
          | nil => simp [memberTokens_singleton, step_name, Document.memberValues?, hs]
          | cons m members =>
              obtain ⟨other, e⟩ := m
              simp [memberTokens_cons_cons, step_name, Document.memberValues?, hs]
      | some s =>
          have hd := h (name, d) (by simp) false (.object before s :: outer)
          cases members with
          | nil =>
              simp only [memberTokens_singleton, hs, List.cons_append, List.foldlM_cons, step_name]
              refine (hd _ hroom).trans ?_
              cases hv : d.value? room with
              | none => simp [Document.memberValues?, hs, hv]
              | some v => simp [Document.memberValues?, hs, hv, supply, step]
          | cons m members =>
              simp only [memberTokens_cons_cons, hs, List.cons_append, List.append_assoc,
                List.foldlM_cons, step_name]
              refine (hd _ hroom).trans ?_
              rw [Document.memberValues?, hs]
              cases hv : d.value? room with
              | none => rfl
              | some v =>
                  have hrest := ih (by simp) (fun m hm => h m (List.mem_cons_of_mem _ hm)) false
                    (Value.insertMember s v before)
                  simp only [Option.bind_some, List.foldlM_cons, supply, step]
                    at hrest ⊢
                  refine hrest.trans ?_
                  cases Document.memberValues? room (m :: members) with
                  | none => rfl
                  | some ms => simp

/-- The reader hands the value of a document to what waits for it, and fails if there is none. -/
theorem foldlM_document (d : Document) (room : Nat) : Reads room d := by
  induction d generalizing room with
  | null | bool =>
      intro canClose outer rest _
      simp [Document.tokens, Document.lexemes, Lexeme.token, step_value, readValue, Document.value?]
  | number n =>
      intro canClose outer rest _
      simp only [Document.tokens, Document.lexemes, List.map_cons, List.map_nil, Lexeme.token,
        List.cons_append, List.nil_append, List.foldlM_cons, Document.value?]
      rw [step_value (by simp)]
      cases Number.ofLiteral n.literal <;> rfl
  | string q =>
      intro canClose outer rest _
      simp only [Document.tokens, Document.lexemes, List.map_cons, List.map_nil, Lexeme.token,
        List.cons_append, List.nil_append, List.foldlM_cons, Document.value?]
      rw [step_value (by simp)]
      cases q.meaning <;> rfl
  | array items ih =>
      intro canClose outer rest hroom
      have htokens : (Document.array items).tokens ++ rest =
          .openArray :: (itemTokens items ++ .closeArray :: rest) := by
        simp [Document.tokens_array]
      rw [htokens, List.foldlM_cons, step_value (by simp), readValue]
      cases room with
      | zero => simp [show ¬ outer.length < maxDepth by omega, Document.value?]
      | succ room =>
          rw [if_pos (by omega)]
          cases items with
          | nil => simp [itemTokens, Document.itemLexemes, step, Document.value?,
              Document.itemValues?]
          | cons d items =>
              refine (foldlM_items (by simp) (fun d hd => ih d hd room) (by omega) true []).trans ?_
              rw [Document.value?]
              cases Document.itemValues? room (d :: items) <;> rfl
  | object members ih =>
      intro canClose outer rest hroom
      have htokens : (Document.object members).tokens ++ rest =
          .openObject :: (memberTokens members ++ .closeObject :: rest) := by
        simp [Document.tokens_object]
      rw [htokens, List.foldlM_cons, step_value (by simp), readValue]
      cases room with
      | zero => simp [show ¬ outer.length < maxDepth by omega, Document.value?]
      | succ room =>
          rw [if_pos (by omega)]
          cases members with
          | nil => simp [memberTokens, Document.memberLexemes, step, Document.value?,
              Document.memberValues?, Value.ofMembers]
          | cons m members =>
              refine (foldlM_members (by simp) (fun m hm => ih m hm room) (by omega) true []).trans
                ?_
              rw [Document.value?]
              cases Document.memberValues? room (m :: members) <;> rfl

end Reader

/-- A text of a document is read as the value that the document denotes. -/
theorem parse_writtenAs {d : Document} {body : String} (h : d.WrittenAs body) :
    parse body = d.value? maxDepth := by
  have hread := Reader.foldlM_document d maxDepth false [] [] (by simp)
  rw [List.append_nil] at hread
  rw [parse, Lexer.run_laid h d.parted_lexemes, Option.bind_some, Reader.run]
  refine (congrArg (·.bind Reader.finish) hread).trans ?_
  cases d.value? maxDepth <;> rfl

end AlarmMonitor.Json
