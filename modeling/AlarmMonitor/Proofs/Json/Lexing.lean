import AlarmMonitor.Proofs.Json.Document

/-!
# The lexemes of a text

Every text that writes lexemes is read as what they denote, whatever layout stands between them.

* `Lexer.passes`: what the lexer makes of one lexeme;
* `Lexer.run_laid`: what it makes of a row of them;
* `Document.parted_lexemes`: the lexemes of a document follow each other as they must.
-/

set_option autoImplicit false

namespace AlarmMonitor.Json

open AlarmMonitor.Number (Numeral Digits Exponent)

namespace Lexer

variable {ts : List Token}

/-! ## Layout -/

theorem foldlM_layout {layout : List Char} (h : IsLayout layout) :
    layout.foldlM step ⟨.between, ts⟩ = some ⟨.between, ts⟩ := by
  induction layout with
  | nil => rfl
  | cons c cs ih =>
      have hc : isLayout c = true := h c (by simp)
      have hcs : IsLayout cs := fun d hd => h d (List.mem_cons_of_mem _ hd)
      simp [step, begin, hc, ih hcs]

theorem isNumberChar_of_isLayout {c : Char} (h : isLayout c = true) : isNumberChar c = false := by
  simp only [isLayout, Bool.or_eq_true, decide_eq_true_eq] at h
  rcases h with ((rfl | rfl) | rfl) | rfl <;> rfl

/-! ## Numbers -/

theorem isNumberChar_of_isDigit {c : Char} (h : c.isDigit = true) : isNumberChar c = true := by
  simp [isNumberChar, h]

theorem isNumberChar_of_mem_digits {ds : Digits} {c : Char} (h : c ∈ ds.text) :
    isNumberChar c = true :=
  isNumberChar_of_isDigit (Digits.isDigit_of_mem_text h)

theorem isNumberChar_of_mem_exponent {e : Exponent} {c : Char} (h : c ∈ e.text) :
    isNumberChar c = true := by
  simp only [Exponent.text, List.mem_cons, List.mem_append, Option.mem_toList,
    Option.map_eq_some_iff] at h
  rcases h with rfl | ⟨minus, _, rfl⟩ | hdigits
  · cases e.capital <;> rfl
  · cases minus <;> rfl
  · exact isNumberChar_of_mem_digits hdigits

theorem isNumberChar_of_mem_text {n : Numeral} {c : Char} (h : c ∈ n.text) :
    isNumberChar c = true := by
  simp only [Numeral.text, Numeral.tail, List.mem_append] at h
  rcases h with hminus | hwhole | hfraction | hexponent
  · cases hn : n.negative with
    | true =>
        obtain rfl : c = '-' := by simpa [hn] using hminus
        rfl
    | false => simp [hn] at hminus
  · exact isNumberChar_of_mem_digits hwhole
  · cases hf : n.fraction with
    | none => simp [hf] at hfraction
    | some ds =>
        rcases (by simpa [hf] using hfraction : c = '.' ∨ c ∈ ds.text) with rfl | hds
        · rfl
        · exact isNumberChar_of_mem_digits hds
  · cases he : n.exponent with
    | none => simp [he] at hexponent
    | some e => exact isNumberChar_of_mem_exponent (by simpa [he] using hexponent)

theorem foldlM_number {chars cs : List Char} (h : ∀ c ∈ cs, isNumberChar c = true) :
    cs.foldlM step ⟨.number chars, ts⟩ = some ⟨.number (cs.reverse ++ chars), ts⟩ := by
  induction cs generalizing chars with
  | nil => rfl
  | cons c cs ih =>
      have hc : isNumberChar c = true := h c (by simp)
      simp [step, hc, ih fun d hd => h d (List.mem_cons_of_mem _ hd)]

/-- A numeral is passed, and the lexer waits for more of it. -/
theorem foldlM_numeral (n : Numeral) :
    n.text.foldlM step ⟨.between, ts⟩ = some ⟨.number n.text.reverse, ts⟩ := by
  obtain ⟨c, rest, htext, hfirst⟩ := n.text_eq_cons
  have hrest : ∀ d ∈ rest, isNumberChar d = true := fun d hd =>
    isNumberChar_of_mem_text (n := n) (by simp [htext, hd])
  have hbegin : begin ts c = some ⟨.number [c], ts⟩ := by
    rcases hfirst with hdigit | rfl
    · -- a digit is none of the signs and letters that the lexer tries before it
      have hne : ∀ d : Char, d.isDigit = false → c ≠ d := by
        rintro d hd rfl
        exact absurd hdigit (by simp [hd])
      have hlayout : isLayout c = false := by
        simp [isLayout, hne ' ' rfl, hne '\t' rfl, hne '\n' rfl, hne '\r' rfl]
      simp [begin, hlayout, hdigit, hne '[' rfl, hne ']' rfl, hne '\x7b' rfl, hne '\x7d' rfl,
        hne ',' rfl, hne ':' rfl, hne '"' rfl, hne 'n' rfl, hne 't' rfl, hne 'f' rfl]
    · rfl
  rw [htext, List.foldlM_cons, step, hbegin]
  simp [foldlM_number hrest]

theorem numberToken_text (n : Numeral) :
    numberToken n.text.reverse = some (Lexeme.number n).token := by
  rw [numberToken, List.reverse_reverse, n.ofStrict_text]
  rfl

/-- A numeral ends where something else begins. -/
theorem settle (n : Numeral) {cs : List Char} (h : ∀ c ∈ cs.head?, isNumberChar c = false) :
    (cs.foldlM step ⟨.number n.text.reverse, ts⟩).bind finish =
      (cs.foldlM step ⟨.between, (Lexeme.number n).token :: ts⟩).bind finish := by
  cases cs with
  | nil => simp [finish, numberToken_text]
  | cons c cs =>
      have hc : isNumberChar c = false := h c (by simp)
      simp only [List.foldlM_cons, step, hc, numberToken_text]
      simp

/-! ## Strings -/

theorem hexValue_eq (d : HexDigit) : hexValue d.1 = some d.value := by
  simp [HexDigit.value]

theorem ne_of_shortEscape {letter c : Char} (h : shortEscape letter = some c) : letter ≠ 'u' := by
  rintro rfl
  simp [shortEscape] at h

theorem foldlM_piece (t : Content) (p : Piece) :
    p.text.foldlM step ⟨.string t, ts⟩ = some ⟨.string (p.addTo t), ts⟩ := by
  cases p with
  | plain c free =>
      obtain ⟨hquote, hbackslash, hcontrol⟩ := free
      simp [Piece.text, Piece.addTo, step, hquote, hbackslash, Nat.not_lt.mpr hcontrol]
  | short letter c escape =>
      simp [Piece.text, Piece.addTo, step, ne_of_shortEscape escape, escape]
  | unit a b c d =>
      simp [Piece.text, Piece.addTo, step, hexValue_eq]

theorem foldlM_quotation (q : Quotation) :
    q.text.foldlM step ⟨.between, ts⟩ = some ⟨.between, (Lexeme.string q).token :: ts⟩ := by
  have key : ∀ t : Content, (q.flatMap Piece.text ++ ['"']).foldlM step ⟨.string t, ts⟩ =
      some ⟨.between, (q.foldl Piece.addTo t).token :: ts⟩ := by
    induction q with
    | nil => intro t; rfl
    | cons p q ih =>
        intro t
        rw [List.flatMap_cons, List.append_assoc, List.foldlM_append, foldlM_piece]
        exact ih _
  exact key .empty

/-! ## Rows of lexemes -/

/-- Any lexeme but a number is passed as a whole. -/
theorem foldlM_text {l : Lexeme} (h : ∀ n, l ≠ .number n) :
    l.text.foldlM step ⟨.between, ts⟩ = some ⟨.between, l.token :: ts⟩ := by
  cases l with
  | number n => exact absurd rfl (h n)
  | string q => exact foldlM_quotation q
  | bool b => cases b <;> rfl
  | _ => rfl

/-- A lexeme is passed if a number is followed by something else. -/
theorem passes {l : Lexeme} {cs : List Char}
    (h : ∀ n, l = .number n → ∀ c ∈ cs.head?, isNumberChar c = false) :
    ((l.text ++ cs).foldlM step ⟨.between, ts⟩).bind finish =
      (cs.foldlM step ⟨.between, l.token :: ts⟩).bind finish := by
  rw [List.foldlM_append]
  by_cases hnumber : ∃ n, l = .number n
  · obtain ⟨n, rfl⟩ := hnumber
    have hpass : (Lexeme.number n).text.foldlM step ⟨.between, ts⟩ =
        some ⟨.number n.text.reverse, ts⟩ := foldlM_numeral n
    rw [hpass]
    exact settle n (h n rfl)
  · rw [foldlM_text fun n hn => hnumber ⟨n, hn⟩]
    rfl

theorem head_mark {l : Lexeme} (h : l.isMark = true) :
    ∃ c, l.text = [c] ∧ isNumberChar c = false := by
  cases l with
  | null | bool | number | string => simp [Lexeme.isMark] at h
  | _ => exact ⟨_, rfl, rfl⟩

/-- A laid row begins with no character of a number, unless its first lexeme does. -/
theorem head_laid {ls : List Lexeme} {cs : List Char} (h : Laid ls cs)
    (hmark : ∀ l ∈ ls.head?, l.isMark = true) : ∀ c ∈ cs.head?, isNumberChar c = false := by
  have hlayout : ∀ {layout : List Char}, IsLayout layout → ∀ c ∈ layout.head?,
      isNumberChar c = false := by
    intro layout hl c hc
    exact isNumberChar_of_isLayout (hl c (List.mem_of_mem_head? hc))
  cases h with
  | nil hl => exact hlayout hl
  | @cons layout cs l ls hl rest =>
      intro c hc
      cases layout with
      | nil =>
          obtain ⟨d, htext, hd⟩ := head_mark (hmark l (by simp))
          obtain rfl : d = c := by simpa [htext] using hc
          exact hd
      | cons d layout => exact hlayout hl c (by simpa using hc)

/-- The lexer finds what the lexemes denote, whatever layout stands between them. -/
theorem run_laid {ls : List Lexeme} {cs : List Char} (h : Laid ls cs) (hparted : Lexeme.Parted ls) :
    run cs = some (ls.map Lexeme.token) := by
  have key : ∀ ts : List Token, (cs.foldlM step ⟨.between, ts⟩).bind finish =
      some (ts.reverse ++ ls.map Lexeme.token) := by
    induction h with
    | nil hl => intro ts; simp [foldlM_layout hl, finish]
    | @cons layout cs l ls hl rest ih =>
        intro ts
        have hnext : ∀ n, l = .number n → ∀ c ∈ cs.head?, isNumberChar c = false := by
          rintro n rfl
          refine head_laid rest ?_
          intro next hmem
          cases ls with
          | nil => simp at hmem
          | cons k ls =>
              obtain rfl : k = next := by simpa using hmem
              simpa [Lexeme.isMark] using hparted.rel
        rw [List.foldlM_append, foldlM_layout hl]
        refine (passes hnext).trans ?_
        rw [ih hparted.of_cons]
        simp
  exact key []

end Lexer

/-! ## Documents -/

namespace Document

/-- Behind a document, and between its parts, stand marks. -/
theorem parted_append {d : Document} (h : Lexeme.Parted d.lexemes) {l : Lexeme} {ls : List Lexeme}
    (hmark : l.isMark = true) (hls : Lexeme.Parted (l :: ls)) :
    Lexeme.Parted (d.lexemes ++ l :: ls) := by
  refine List.isChain_append.mpr ⟨h, hls, ?_⟩
  intro a _ b hb
  obtain rfl : l = b := by simpa using hb
  exact .inr hmark

theorem parted_mark {l : Lexeme} {ls : List Lexeme} (hmark : l.isMark = true)
    (hls : Lexeme.Parted ls) : Lexeme.Parted (l :: ls) :=
  List.isChain_cons.mpr ⟨fun _ _ => .inl hmark, hls⟩

theorem parted_lexemes (d : Document) : Lexeme.Parted d.lexemes := by
  induction d with
  | null | bool | number | string => exact List.isChain_singleton _
  | array items ih =>
      have hitems : Lexeme.Parted (itemLexemes items ++ [.closeArray]) := by
        induction items with
        | nil => exact List.isChain_singleton _
        | cons d rest ihrest =>
            have hd := ih d (by simp)
            have hrest := ihrest fun e he => ih e (List.mem_cons_of_mem _ he)
            cases rest with
            | nil => exact parted_append hd rfl (List.isChain_singleton _)
            | cons e rest =>
                rw [itemLexemes, List.append_assoc]
                exact parted_append hd rfl (parted_mark rfl hrest)
                simp
      exact parted_mark rfl hitems
  | object members ih =>
      have hmembers : Lexeme.Parted (memberLexemes members ++ [.closeObject]) := by
        induction members with
        | nil => exact List.isChain_singleton _
        | cons m rest ihrest =>
            obtain ⟨name, d⟩ := m
            have hd := ih (name, d) (by simp)
            have hrest := ihrest fun e he => ih e (List.mem_cons_of_mem _ he)
            have hname : ∀ ls, Lexeme.Parted ls →
                Lexeme.Parted (Lexeme.string name :: .colon :: ls) := by
              intro ls hls
              refine List.isChain_cons.mpr ⟨?_, parted_mark rfl hls⟩
              intro next hnext
              obtain rfl : Lexeme.colon = next := by simpa using hnext
              exact .inr rfl
            cases rest with
            | nil => exact hname _ (parted_append hd rfl (List.isChain_singleton _))
            | cons e rest =>
                rw [memberLexemes, List.cons_append, List.cons_append, List.append_assoc]
                exact hname _ (parted_append hd rfl (parted_mark rfl hrest))
                simp
      exact parted_mark rfl hmembers

end Document

end AlarmMonitor.Json
