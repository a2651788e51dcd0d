import AlarmMonitor.Proofs.Json.Reading

/-!
# The texts that are read

Nothing but the text of a document is read as a value.

* `Lexer.Completes`, `Reader.Completes`: what must follow where the lexer or the reader stands;
* `Lexer.writes_of_run`: every text with tokens writes lexemes;
* `Reader.exists_document`: every row of lexemes with a value is that of a document;
* `parse_eq_some_iff`: which texts have a value, and which.
-/

set_option autoImplicit false

namespace AlarmMonitor.Json

open AlarmMonitor.Number (Numeral)

namespace Lexer

/-! ## Lexemes -/

/-- The text writes lexemes that denote the tokens. -/
def Writes (cs : List Char) (ts : List Token) : Prop := ∃ ls, Laid ls cs ∧ ls.map Lexeme.token = ts

/-- The text is the rest of a string literal with this content so far, and writes lexemes behind
it. -/
def Closes (content : Content) (cs : List Char) (ts : List Token) : Prop :=
  ∃ (q : Quotation) (cs' : List Char) (ts' : List Token), cs = q.flatMap Piece.text ++ '"' :: cs' ∧
    Writes cs' ts' ∧ ts = (q.foldl Piece.addTo content).token :: ts'

/-- What must follow where the lexer stands, and the tokens still to come. -/
def Completes : State → List Char → List Token → Prop
  | .between, cs, ts => Writes cs ts
  | .word rest t, cs, ts => ∃ cs' ts', cs = rest ++ cs' ∧ Writes cs' ts' ∧ ts = t :: ts'
  | .number chars, cs, ts =>
    ∃ more cs' t ts', cs = more ++ cs' ∧ numberToken (more.reverse ++ chars) = some t ∧
      Writes cs' ts' ∧ ts = t :: ts'
  | .string content, cs, ts => Closes content cs ts
  | .escape content, cs, ts => Closes content ('\\' :: cs) ts
  | .hex content count value, cs, ts =>
    ∀ ds : List HexDigit, ds.length = count → ds.foldl (fun n d => n * 16 + d.value) 0 = value →
      count < 4 → Closes content ('\\' :: 'u' :: (ds.map (·.1) ++ cs)) ts

variable {cs : List Char} {ts new : List Token} {c : Char}

theorem writes_nil : Writes [] [] := ⟨[], .nil (by simp [IsLayout]), rfl⟩

theorem Writes.layout (h : Writes cs ts) (hc : isLayout c = true) : Writes (c :: cs) ts := by
  obtain ⟨ls, hlaid, hts⟩ := h
  refine ⟨ls, ?_, hts⟩
  cases hlaid with
  | nil hl => exact .nil (List.forall_mem_cons.mpr ⟨hc, hl⟩)
  | cons hl rest => exact .cons (List.forall_mem_cons.mpr ⟨hc, hl⟩) rest

theorem Writes.lexeme (h : Writes cs ts) (l : Lexeme) : Writes (l.text ++ cs) (l.token :: ts) := by
  obtain ⟨ls, hlaid, rfl⟩ := h
  have hnone : IsLayout [] := by simp [IsLayout]
  exact ⟨l :: ls, .cons hnone hlaid, rfl⟩

theorem Closes.writes (h : Closes .empty cs ts) : Writes ('"' :: cs) ts := by
  obtain ⟨q, cs', ts', rfl, hwrites, rfl⟩ := h
  have htext : (Lexeme.string q).text ++ cs' = '"' :: (q.flatMap Piece.text ++ '"' :: cs') := by
    simp [Lexeme.text, Quotation.text]
  rw [← htext]
  exact hwrites.lexeme (.string q)

theorem Closes.piece {content : Content} (p : Piece) (h : Closes (p.addTo content) cs ts) :
    Closes content (p.text ++ cs) ts := by
  obtain ⟨q, cs', ts', rfl, hwrites, rfl⟩ := h
  exact ⟨p :: q, cs', ts', by simp, hwrites, rfl⟩

/-- The characters of a number write a numeral. -/
theorem exists_numeral {chars : List Char} {t : Token} (h : numberToken chars = some t) :
    ∃ n : Numeral, n.text = chars.reverse ∧ (Lexeme.number n).token = t := by
  obtain ⟨l, hl, rfl⟩ := Option.map_eq_some_iff.mp h
  obtain ⟨n, htext, rfl⟩ := Numeral.exists_of_ofStrict hl
  exact ⟨n, htext, rfl⟩

/-! ## Steps -/

theorem writes_of_begin {s : Scan} (hstep : begin ts c = some s) (h : Completes s.state cs new) :
    ∃ all, Writes (c :: cs) all ∧ s.tokens.reverse ++ new = ts.reverse ++ all := by
  have mark (l : Lexeme) (hl : l.text = [c]) (hs : some ⟨.between, l.token :: ts⟩ = some s) :
      ∃ all, Writes (c :: cs) all ∧ s.tokens.reverse ++ new = ts.reverse ++ all := by
    obtain rfl := Option.some.inj hs
    refine ⟨l.token :: new, ?_, by simp⟩
    have hwrites := Writes.lexeme h l
    rwa [hl] at hwrites
  have word (l : Lexeme) (rest : List Char) (hl : l.text = c :: rest)
      (hs : some ⟨.word rest l.token, ts⟩ = some s) :
      ∃ all, Writes (c :: cs) all ∧ s.tokens.reverse ++ new = ts.reverse ++ all := by
    obtain rfl := Option.some.inj hs
    obtain ⟨cs', ts', rfl, hwrites, rfl⟩ := h
    refine ⟨l.token :: ts', ?_, rfl⟩
    have hlexeme := hwrites.lexeme l
    rwa [hl] at hlexeme
  revert hstep
  fun_cases begin ts c with
  | case1 hlayout =>
      intro hs
      obtain rfl := Option.some.inj hs
      exact ⟨new, Writes.layout h hlayout, rfl⟩
  | case2 _ hc => exact mark .openArray (by rw [hc]; rfl)
  | case3 _ _ hc => exact mark .closeArray (by rw [hc]; rfl)
  | case4 _ _ _ hc => exact mark .openObject (by rw [hc]; rfl)
  | case5 _ _ _ _ hc => exact mark .closeObject (by rw [hc]; rfl)
  | case6 _ _ _ _ _ hc => exact mark .comma (by rw [hc]; rfl)
  | case7 _ _ _ _ _ _ hc => exact mark .colon (by rw [hc]; rfl)
  | case8 _ _ _ _ _ _ _ hc =>
      intro hs
      obtain rfl := Option.some.inj hs
      exact ⟨new, by rw [hc]; exact Closes.writes h, rfl⟩
  | case9 _ _ _ _ _ _ _ _ hc => exact word .null _ (by rw [hc]; rfl)
  | case10 _ _ _ _ _ _ _ _ _ hc => exact word (.bool true) _ (by rw [hc]; rfl)
  | case11 _ _ _ _ _ _ _ _ _ _ hc => exact word (.bool false) _ (by rw [hc]; rfl)
  | case12 =>
      intro hs
      obtain rfl := Option.some.inj hs
      obtain ⟨more, cs', t, ts', rfl, htoken, hwrites, rfl⟩ := h
      obtain ⟨n, htext, rfl⟩ := exists_numeral htoken
      refine ⟨_, ?_, rfl⟩
      have hlexeme := hwrites.lexeme (.number n)
      rw [Lexeme.text, htext] at hlexeme
      simpa using hlexeme
  | case13 => nofun

/-- What follows a character and the character are what follows the state before it. -/
theorem completes_of_step {st : State} {s : Scan} (hstep : step ⟨st, ts⟩ c = some s)
    (h : Completes s.state cs new) :
    ∃ all, Completes st (c :: cs) all ∧ s.tokens.reverse ++ new = ts.reverse ++ all := by
  cases st with
  | between => exact writes_of_begin hstep h
  | word rest t =>
      cases rest with
      | nil => cases hstep
      | cons d rest =>
          cases rest with
          | nil =>
              simp only [step] at hstep
              split at hstep
              · next hc =>
                  obtain rfl := Option.some.inj hstep
                  exact ⟨t :: new, ⟨cs, new, by rw [hc]; rfl, h, rfl⟩, by simp⟩
              · cases hstep
          | cons e rest =>
              simp only [step] at hstep
              split at hstep
              · next hc =>
                  obtain rfl := Option.some.inj hstep
                  obtain ⟨cs', ts', rfl, hwrites, rfl⟩ := h
                  exact ⟨_, ⟨cs', ts', by rw [hc]; rfl, hwrites, rfl⟩, rfl⟩
              · cases hstep
  | number chars =>
      simp only [step] at hstep
      split at hstep
      · obtain rfl := Option.some.inj hstep
        obtain ⟨more, cs', t, ts', rfl, htoken, hwrites, rfl⟩ := h
        exact ⟨_, ⟨c :: more, cs', t, ts', rfl, by simpa using htoken, hwrites, rfl⟩, rfl⟩
      · obtain ⟨t, htoken, hbegin⟩ := Option.bind_eq_some_iff.mp hstep
        obtain ⟨all, hwrites, hall⟩ := writes_of_begin hbegin h
        exact ⟨t :: all, ⟨[], c :: cs, t, all, rfl, htoken, hwrites, rfl⟩, by simpa using hall⟩
  | string content =>
      simp only [step] at hstep
      split at hstep
      · next hc =>
          obtain rfl := Option.some.inj hstep
          exact ⟨_, ⟨[], cs, new, by rw [hc]; rfl, h, rfl⟩, by simp⟩
      · next hquote =>
          split at hstep
          · next hc =>
              obtain rfl := Option.some.inj hstep
              exact ⟨new, by rw [hc]; exact h, rfl⟩
          · next hbackslash =>
              split at hstep
              · cases hstep
              · next hcontrol =>
                  obtain rfl := Option.some.inj hstep
                  refine ⟨new, ?_, rfl⟩
                  exact Closes.piece (.plain c ⟨hquote, hbackslash, Nat.not_lt.mp hcontrol⟩) h
  | escape content =>
      simp only [step] at hstep
      split at hstep
      · next hc =>
          obtain rfl := Option.some.inj hstep
          refine ⟨new, ?_, rfl⟩
          rw [hc]
          exact h [] rfl rfl (by decide)
      · obtain ⟨d, hd, rfl⟩ := Option.map_eq_some_iff.mp hstep
        exact ⟨new, Closes.piece (.short c d hd) h, rfl⟩
  | hex content count value =>
      simp only [step] at hstep
      obtain ⟨d, hd, hs⟩ := Option.map_eq_some_iff.mp hstep
      have hdigit : (hexValue c).isSome := by simp [hd]
      have hvalue : HexDigit.value ⟨c, hdigit⟩ = d := by simp [HexDigit.value, hd]
      split at hs
      · next hcount =>
          subst hs
          refine ⟨new, ?_, rfl⟩
          rintro ds hlength rfl -
          obtain ⟨x, y, z, rfl⟩ := List.length_eq_three.mp (hlength.trans hcount)
          have hcloses : Closes ((Piece.unit x y z ⟨c, hdigit⟩).addTo content) cs new := by
            rw [← hvalue] at h
            simpa [Completes, Piece.addTo] using h
          exact hcloses.piece _
      · next hcount =>
          subst hs
          refine ⟨new, ?_, rfl⟩
          intro ds hlength hfold hlt
          have hrest := h (ds ++ [⟨c, hdigit⟩]) (by simp [hlength])
            (by simp [hfold, hvalue]) (by omega)
          simpa using hrest

/-- What the lexer reads from where it stands is what must follow there. -/
theorem completes_of_run {st : State} {out : List Token}
    (h : (cs.foldlM step ⟨st, ts⟩).bind finish = some out) :
    ∃ all, Completes st cs all ∧ out = ts.reverse ++ all := by
  induction cs generalizing st ts with
  | nil =>
      cases st with
      | between =>
          obtain rfl := Option.some.inj h
          exact ⟨[], writes_nil, by simp⟩
      | number chars =>
          obtain ⟨t, htoken, rfl⟩ := Option.map_eq_some_iff.mp h
          exact ⟨[t], ⟨[], [], t, [], rfl, htoken, writes_nil, rfl⟩, by simp⟩
      | _ => cases h
  | cons c cs ih =>
      rw [List.foldlM_cons, Option.bind_eq_bind, Option.bind_assoc] at h
      obtain ⟨s, hstep, hrest⟩ := Option.bind_eq_some_iff.mp h
      obtain ⟨new, hnew, rfl⟩ := ih hrest
      obtain ⟨all, hall, heq⟩ := completes_of_step hstep hnew
      exact ⟨all, hall, heq⟩

/-- A text with tokens writes lexemes that denote them. -/
theorem writes_of_run (h : run cs = some ts) : Writes cs ts := by
  obtain ⟨all, hwrites, rfl⟩ := completes_of_run h
  exact hwrites

end Lexer

theorem Lexeme.eq_closeArray_of_token {l : Lexeme} (h : l.token = .closeArray) :
    l = .closeArray := by
  cases l with
  | closeArray => rfl
  | _ => cases h

namespace Reader

open Document (itemLexemes memberLexemes)

/-! ## Values -/

/-- What must follow a value in the places that wait for it: the rest of each array and object. -/
def Closes : List Frame → List Lexeme → Prop
  | [], ls => ls = []
  | .array _ :: outer, ls =>
    ∃ (items : List Document) (rest : List Lexeme),
      ls = items.flatMap (fun d => .comma :: d.lexemes) ++ .closeArray :: rest ∧ Closes outer rest
  | .object _ _ :: outer, ls =>
    ∃ (members : List (Quotation × Document)) (rest : List Lexeme),
      ls = members.flatMap (fun m => .comma :: .string m.1 :: .colon :: m.2.lexemes) ++
          .closeObject :: rest ∧ Closes outer rest

/-- What must follow where the reader stands. -/
def Completes : State → List Lexeme → Prop
  | .value canClose outer, ls =>
    (∃ (d : Document) (rest : List Lexeme), ls = d.lexemes ++ rest ∧ Closes outer rest) ∨
      (canClose = true ∧ ∃ (outer' : List Frame) (rest : List Lexeme), outer = .array [] :: outer' ∧
        ls = .closeArray :: rest ∧ Closes outer' rest)
  | .name canClose _ outer, ls =>
    (∃ (name : Quotation) (d : Document) (rest : List Lexeme),
      ls = .string name :: .colon :: (d.lexemes ++ rest) ∧ Closes (.object [] "" :: outer) rest) ∨
      (canClose = true ∧ ∃ rest, ls = .closeObject :: rest ∧ Closes outer rest)
  | .colon _ _ outer, ls =>
    ∃ (d : Document) (rest : List Lexeme), ls = .colon :: (d.lexemes ++ rest) ∧
      Closes (.object [] "" :: outer) rest
  | .item _ outer, ls => Closes (.array [] :: outer) ls
  | .member _ outer, ls => Closes (.object [] "" :: outer) ls
  | .done _, ls => ls = []

variable {outer : List Frame} {ls : List Lexeme}

theorem itemLexemes_cons (d : Document) (items : List Document) :
    itemLexemes (d :: items) = d.lexemes ++ items.flatMap fun d => .comma :: d.lexemes := by
  induction items generalizing d with
  | nil => simp [itemLexemes]
  | cons e items ih => simp [itemLexemes, ih]

theorem memberLexemes_cons (m : Quotation × Document) (members : List (Quotation × Document)) :
    memberLexemes (m :: members) = .string m.1 :: .colon ::
      (m.2.lexemes ++ members.flatMap fun m => .comma :: .string m.1 :: .colon :: m.2.lexemes) := by
  induction members generalizing m with
  | nil => simp [memberLexemes]
  | cons n members ih => simp [memberLexemes, ih]

/-- Behind a value that is handed on follows what the places around it wait for. -/
theorem closes_of_supply {v : Value} (h : Completes (supply v outer) ls) : Closes outer ls := by
  cases outer with
  | nil => exact h
  | cons frame outer => cases frame <;> exact h

/-! ### One lexeme -/

section Lexeme

variable {canClose : Bool} {items items' : List Value} {members members' : List (String × Value)}
  {name name' : String}

theorem completes_leaf {d : Document} {l : Lexeme} (hd : d.lexemes = [l]) (h : Closes outer ls) :
    Completes (.value canClose outer) (l :: ls) :=
  .inl ⟨d, ls, by rw [hd]; rfl, h⟩

theorem completes_openArray (h : Completes (.value true (.array [] :: outer)) ls) :
    Completes (.value canClose outer) (.openArray :: ls) := by
  rcases h with ⟨d, _, rfl, items, rest, rfl, hrest⟩ | ⟨-, outer', rest, houter, rfl, hrest⟩
  · exact .inl ⟨.array (d :: items), rest, by simp [Document.lexemes, itemLexemes_cons], hrest⟩
  · obtain rfl := (List.cons.inj houter).2
    exact .inl ⟨.array [], rest, rfl, hrest⟩

theorem completes_openObject (h : Completes (.name true members outer) ls) :
    Completes (.value canClose outer) (.openObject :: ls) := by
  rcases h with ⟨name, d, _, rfl, members, rest, rfl, hrest⟩ | ⟨-, rest, rfl, hrest⟩
  · exact .inl ⟨.object ((name, d) :: members), rest,
      by simp [Document.lexemes, memberLexemes_cons], hrest⟩
  · exact .inl ⟨.object [], rest, rfl, hrest⟩

theorem completes_emptyArray (h : Closes outer ls) :
    Completes (.value true (.array [] :: outer)) (.closeArray :: ls) :=
  .inr ⟨rfl, outer, ls, rfl, rfl, h⟩

theorem completes_emptyObject (h : Closes outer ls) :
    Completes (.name true members outer) (.closeObject :: ls) :=
  .inr ⟨rfl, ls, rfl, h⟩

theorem completes_name (q : Quotation) (h : Completes (.colon members name outer) ls) :
    Completes (.name canClose members' outer) (.string q :: ls) := by
  obtain ⟨d, rest, rfl, hrest⟩ := h
  exact .inl ⟨q, d, rest, rfl, hrest⟩

theorem completes_colon (h : Completes (.value false (.object members name :: outer)) ls) :
    Completes (.colon members' name' outer) (.colon :: ls) := by
  rcases h with ⟨d, rest, rfl, hrest⟩ | ⟨hfalse, -⟩
  · exact ⟨d, rest, rfl, hrest⟩
  · cases hfalse

theorem completes_nextItem (h : Completes (.value false (.array items :: outer)) ls) :
    Completes (.item items' outer) (.comma :: ls) := by
  rcases h with ⟨d, _, rfl, more, rest, rfl, hrest⟩ | ⟨hfalse, -⟩
  · exact ⟨d :: more, rest, by simp, hrest⟩
  · cases hfalse

theorem completes_closeArray (h : Closes outer ls) :
    Completes (.item items outer) (.closeArray :: ls) := ⟨[], ls, rfl, h⟩

theorem completes_nextMember (h : Completes (.name false members outer) ls) :
    Completes (.member members' outer) (.comma :: ls) := by
  rcases h with ⟨name, d, _, rfl, more, rest, rfl, hrest⟩ | ⟨hfalse, -⟩
  · exact ⟨(name, d) :: more, rest, by simp, hrest⟩
  · cases hfalse

theorem completes_closeObject (h : Closes outer ls) :
    Completes (.member members outer) (.closeObject :: ls) := ⟨[], ls, rfl, h⟩

end Lexeme

theorem completes_of_readValue {s : State} {l : Lexeme} (canClose : Bool)
    (hstep : readValue outer l.token = some s) (h : Completes s ls) :
    Completes (.value canClose outer) (l :: ls) := by
  have leaf (d : Document) (v : Value) (hd : d.lexemes = [l]) (hs : supply v outer = s) :
      Completes (.value canClose outer) (l :: ls) := by
    subst hs
    exact completes_leaf hd (closes_of_supply h)
  cases l with
  | null => exact leaf .null _ rfl (Option.some.inj hstep)
  | bool b => exact leaf (.bool b) _ rfl (Option.some.inj hstep)
  | number n =>
      obtain ⟨m, -, hs⟩ := Option.map_eq_some_iff.mp hstep
      exact leaf (.number n) _ rfl hs
  | string q =>
      obtain ⟨m, -, hs⟩ := Option.map_eq_some_iff.mp hstep
      exact leaf (.string q) _ rfl hs
  | openArray =>
      simp only [Lexeme.token, readValue] at hstep
      split at hstep
      · obtain rfl := Option.some.inj hstep
        exact completes_openArray h
      · cases hstep
  | openObject =>
      simp only [Lexeme.token, readValue] at hstep
      split at hstep
      · obtain rfl := Option.some.inj hstep
        exact completes_openObject h
      · cases hstep
  | closeArray | closeObject | comma | colon => cases hstep

/-- A lexeme and what follows it are what must follow where the reader stood before it. -/
theorem completes_of_step {s s' : State} {l : Lexeme} (hstep : step s l.token = some s')
    (h : Completes s' ls) : Completes s (l :: ls) := by
  cases s with
  | value canClose outer =>
      by_cases hclose : l.token = .closeArray
      · have hl : l = .closeArray := Lexeme.eq_closeArray_of_token hclose
        obtain ⟨rfl, outer', rfl, rfl⟩ : canClose = true ∧ ∃ outer',
            outer = .array [] :: outer' ∧ supply (.array []) outer' = s' := by
          rw [hclose] at hstep
          match canClose, outer with
          | true, .array [] :: outer' => exact ⟨rfl, outer', rfl, Option.some.inj hstep⟩
          | true, .array (_ :: _) :: _ | true, .object _ _ :: _ | true, [] | false, _ => cases hstep
        rw [hl]
        exact completes_emptyArray (closes_of_supply h)
      · rw [step_value hclose] at hstep
        exact completes_of_readValue canClose hstep h
  | name canClose members outer =>
      cases l with
      | string q =>
          simp only [Lexeme.token, step_name] at hstep
          obtain ⟨m, -, rfl⟩ := Option.map_eq_some_iff.mp hstep
          exact completes_name q h
      | closeObject =>
          cases canClose with
          | true =>
              obtain rfl := Option.some.inj hstep
              exact completes_emptyObject (closes_of_supply h)
          | false => cases hstep
      | _ => cases canClose <;> cases hstep
  | colon members name outer =>
      cases l with
      | colon =>
          obtain rfl := Option.some.inj hstep
          exact completes_colon h
      | _ => cases hstep
  | item items outer =>
      cases l with
      | comma =>
          obtain rfl := Option.some.inj hstep
          exact completes_nextItem h
      | closeArray =>
          obtain rfl := Option.some.inj hstep
          exact completes_closeArray (closes_of_supply h)
      | _ => cases hstep
  | member members outer =>
      cases l with
      | comma =>
          obtain rfl := Option.some.inj hstep
          exact completes_nextMember h
      | closeObject =>
          obtain rfl := Option.some.inj hstep
          exact completes_closeObject (closes_of_supply h)
      | _ => cases hstep
  | done v => cases hstep

/-- What a machine over tokens reads is what must follow where it began, if one lexeme that it reads
and what must follow behind it are what must follow before it. -/
theorem completes_of_foldlM {α : Type} {f : α → Token → Option α} {position : α → State}
    (hstep : ∀ {a b : α} {l : Lexeme} {ls : List Lexeme}, f a l.token = some b →
      Completes (position b) ls → Completes (position a) (l :: ls))
    {a b : α} (h : (ls.map Lexeme.token).foldlM f a = some b) (hend : Completes (position b) []) :
    Completes (position a) ls := by
  induction ls generalizing a with
  | nil =>
      obtain rfl : a = b := Option.some.inj h
      exact hend
  | cons l ls ih =>
      rw [List.map_cons, List.foldlM_cons] at h
      obtain ⟨a', hnext, hrest⟩ := Option.bind_eq_some_iff.mp h
      exact hstep hnext (ih hrest)

theorem completes_of_run {s : State} {v : Value}
    (h : ((ls.map Lexeme.token).foldlM step s).bind finish = some v) : Completes s ls := by
  obtain ⟨s', hrun, hfinish⟩ := Option.bind_eq_some_iff.mp h
  have hend : Completes s' [] := by
    cases s' with
    | done w => rfl
    | _ => cases hfinish
  exact completes_of_foldlM completes_of_step hrun hend

/-- What must follow at the beginning are the lexemes of a document. -/
theorem document_of_completes (h : Completes (.value false []) ls) :
    ∃ d : Document, d.lexemes = ls := by
  rcases h with ⟨d, rest, rfl, hrest⟩ | ⟨hfalse, -⟩
  · obtain rfl : rest = [] := hrest
    exact ⟨d, (List.append_nil _).symm⟩
  · cases hfalse

/-- Lexemes that have a value are those of a document. -/
theorem exists_document {v : Value} (h : run (ls.map Lexeme.token) = some v) :
    ∃ d : Document, d.lexemes = ls := document_of_completes (completes_of_run h)

end Reader

/-! ## Bodies -/

/-- The texts that have a value are those of the documents that have one. -/
theorem parse_eq_some_iff {body : String} {v : Value} :
    parse body = some v ↔ ∃ d : Document, d.WrittenAs body ∧ d.value? maxDepth = some v := by
  constructor
  · intro h
    obtain ⟨ts, htokens, hvalue⟩ := Option.bind_eq_some_iff.mp h
    obtain ⟨ls, hlaid, rfl⟩ := Lexer.writes_of_run htokens
    obtain ⟨d, rfl⟩ := Reader.exists_document hvalue
    have hwritten : d.WrittenAs body := hlaid
    exact ⟨d, hwritten, (parse_writtenAs hwritten).symm.trans h⟩
  · rintro ⟨d, hwritten, hvalue⟩
    exact (parse_writtenAs hwritten).trans hvalue

end AlarmMonitor.Json
