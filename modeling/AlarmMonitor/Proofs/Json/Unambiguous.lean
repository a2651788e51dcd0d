import AlarmMonitor.Proofs.Json.RoundTrip

/-!
# Values with the same text

The lexemes of a value tell where it ends, so what is written behind it cannot be taken for a part
of it.  Hence values without doubles that have the same text are the same, however deep they are.

* `Value.begins`: the first lexeme of a value;
* `Value.tokens_append_inj`: a row of lexemes begins with one value only;
* `text_injective`: values without doubles that have the same text are the same.
-/

set_option autoImplicit false

namespace AlarmMonitor.Json.Value

/-- May a value begin with this lexeme? -/
def begins : Token → Bool
  | .closeArray | .closeObject | .comma | .colon => false
  | _ => true

theorem tokens_eq_cons (v : Value) : ∃ t ts, v.tokens = t :: ts ∧ begins t = true := by
  cases v <;> exact ⟨_, _, rfl, rfl⟩

/-- The value ends where its lexemes end, whatever follows. -/
def Ends (v : Value) : Prop :=
  ∀ (w : Value) (r s : List Token), v.tokens ++ r = w.tokens ++ s → v = w ∧ r = s

/-- Behind an item stands a comma or the end of the array. -/
theorem itemTokens_cons (v : Value) (items : List Value) (r : List Token) :
    ∃ ts, itemTokens (v :: items) ++ .closeArray :: r = v.tokens ++ ts ∧
      ((items = [] ∧ ts = .closeArray :: r) ∨
        (items ≠ [] ∧ ts = .comma :: (itemTokens items ++ .closeArray :: r))) := by
  cases items with
  | nil => exact ⟨_, rfl, .inl ⟨rfl, rfl⟩⟩
  | cons w items => exact ⟨_, by simp [itemTokens], .inr ⟨by simp, rfl⟩⟩

/-- Behind a member stands a comma or the end of the object. -/
theorem memberTokens_cons (name : String) (v : Value) (members : List (String × Value))
    (r : List Token) :
    ∃ ts, memberTokens ((name, v) :: members) ++ .closeObject :: r =
        .string (some name) :: .colon :: (v.tokens ++ ts) ∧
      ((members = [] ∧ ts = .closeObject :: r) ∨
        (members ≠ [] ∧ ts = .comma :: (memberTokens members ++ .closeObject :: r))) := by
  cases members with
  | nil => exact ⟨_, rfl, .inl ⟨rfl, rfl⟩⟩
  | cons m members => exact ⟨_, by simp [memberTokens], .inr ⟨by simp, rfl⟩⟩

theorem itemTokens_append_inj {items : List Value} (h : ∀ v ∈ items, v.Ends) {others : List Value}
    {r s : List Token}
    (heq : itemTokens items ++ .closeArray :: r = itemTokens others ++ .closeArray :: s) :
    items = others ∧ r = s := by
  -- a row that is not empty does not begin with the end of the array
  have hne : ∀ (v : Value) (ts r : List Token), .closeArray :: r ≠ v.tokens ++ ts := by
    intro v ts r heq
    obtain ⟨t, rest, htokens, ht⟩ := v.tokens_eq_cons
    rw [htokens, List.cons_append, List.cons.injEq] at heq
    rw [← heq.1] at ht
    simp [begins] at ht
  induction items generalizing others with
  | nil =>
      cases others with
      | nil => simpa [itemTokens] using heq
      | cons w others =>
          obtain ⟨ts, hother, _⟩ := itemTokens_cons w others s
          rw [hother] at heq
          exact absurd heq (hne w ts r)
  | cons v items ih =>
      obtain ⟨ts, hrow, hts⟩ := itemTokens_cons v items r
      rw [hrow] at heq
      cases others with
      | nil => exact absurd heq.symm (hne v ts s)
      | cons w others =>
          obtain ⟨us, hother, hus⟩ := itemTokens_cons w others s
          rw [hother] at heq
          obtain ⟨rfl, rfl⟩ := h v (by simp) w ts us heq
          rcases hts with ⟨rfl, rfl⟩ | ⟨_, rfl⟩
          · rcases hus with ⟨rfl, hus⟩ | ⟨_, hus⟩
            · exact ⟨rfl, (List.cons.inj hus).2⟩
            · simp at hus
          · rcases hus with ⟨rfl, hus⟩ | ⟨_, hus⟩
            · simp at hus
            · obtain ⟨rfl, rfl⟩ := ih (fun x hx => h x (List.mem_cons_of_mem _ hx))
                (List.cons.inj hus).2
              exact ⟨rfl, rfl⟩

theorem memberTokens_append_inj {members : List (String × Value)} (h : ∀ m ∈ members, m.2.Ends)
    {others : List (String × Value)} {r s : List Token}
    (heq : memberTokens members ++ .closeObject :: r = memberTokens others ++ .closeObject :: s) :
    members = others ∧ r = s := by
  induction members generalizing others with
  | nil =>
      cases others with
      | nil => simpa [memberTokens] using heq
      | cons n others =>
          obtain ⟨ts, hother, _⟩ := memberTokens_cons n.1 n.2 others s
          rw [hother] at heq
          simp [memberTokens] at heq
  | cons m members ih =>
      obtain ⟨ts, hrow, hts⟩ := memberTokens_cons m.1 m.2 members r
      rw [hrow] at heq
      cases others with
      | nil => simp [memberTokens] at heq
      | cons n others =>
          obtain ⟨us, hother, hus⟩ := memberTokens_cons n.1 n.2 others s
          rw [hother] at heq
          obtain ⟨hname, hvalue⟩ : m.1 = n.1 ∧ m.2.tokens ++ ts = n.2.tokens ++ us := by
            simpa using heq
          obtain ⟨hsame, rfl⟩ := h m (by simp) n.2 ts us hvalue
          obtain rfl : m = n := Prod.ext hname hsame
          rcases hts with ⟨rfl, rfl⟩ | ⟨_, rfl⟩
          · rcases hus with ⟨rfl, hus⟩ | ⟨_, hus⟩
            · exact ⟨rfl, (List.cons.inj hus).2⟩
            · simp at hus
          · rcases hus with ⟨rfl, hus⟩ | ⟨_, hus⟩
            · simp at hus
            · obtain ⟨rfl, rfl⟩ := ih (fun x hx => h x (List.mem_cons_of_mem _ hx))
                (List.cons.inj hus).2
              exact ⟨rfl, rfl⟩

/-- A row of lexemes begins with one value only. -/
theorem tokens_append_inj (v : Value) : v.Ends := by
  induction v with
  | null | bool | number | string =>
      intro w r s heq
      cases w <;> simp_all [tokens]
  | array items ih =>
      intro w r s heq
      cases w with
      | array others =>
          have hrow : itemTokens items ++ .closeArray :: r =
              itemTokens others ++ .closeArray :: s := by
            simpa [tokens] using heq
          obtain ⟨rfl, rfl⟩ := itemTokens_append_inj ih hrow
          exact ⟨rfl, rfl⟩
      | _ => simp [tokens] at heq
  | object members ih =>
      intro w r s heq
      cases w with
      | object others =>
          have hrow : memberTokens members ++ .closeObject :: r =
              memberTokens others ++ .closeObject :: s := by
            simpa [tokens] using heq
          obtain ⟨rfl, rfl⟩ := memberTokens_append_inj ih hrow
          exact ⟨rfl, rfl⟩
      | _ => simp [tokens] at heq

/-- Values without doubles that have the same text are the same. -/
theorem text_injective {v w : Value} (hv : v.EveryNumber Number.IsInteger)
    (hw : w.EveryNumber Number.IsInteger) (h : v.text = w.text) : v = w := by
  have htokens : v.tokens = w.tokens := by
    have hrun := run_text hv
    rw [h, run_text hw] at hrun
    exact (Option.some.inj hrun).symm
  exact (tokens_append_inj v w [] [] (by rw [htokens])).1

end AlarmMonitor.Json.Value
