import AlarmMonitor.Text.Split

/-!
# Parts of a text

* `takeWhile_boundary`, `dropWhile_boundary`: the front of a text up to where a class of characters
  ends;
* `splitBy_append`, `length_splitBy`, `flatMap_splitBy`: the parts between separators;
* `aroundFirst_append`: the parts around the first of a character.
-/

set_option autoImplicit false

namespace AlarmMonitor.Text

/-! ## The front of a text -/

section Boundary

variable {p : Char → Bool} {cs rest : List Char}

theorem takeWhile_boundary (hcs : ∀ c ∈ cs, p c = true) (hrest : ∀ c ∈ rest.head?, p c = false) :
    (cs ++ rest).takeWhile p = cs := by
  rw [List.takeWhile_append_of_pos hcs]
  cases rest with
  | nil => simp
  | cons c rest => simp [hrest c rfl]

theorem dropWhile_boundary (hcs : ∀ c ∈ cs, p c = true) (hrest : ∀ c ∈ rest.head?, p c = false) :
    (cs ++ rest).dropWhile p = rest := by
  rw [List.dropWhile_append_of_pos hcs]
  cases rest with
  | nil => rfl
  | cons c rest => simp [hrest c rfl]

/-- Where a class of characters ends, a text goes on with a character outside it. -/
theorem head_dropWhile (p : Char → Bool) (cs : List Char) :
    ∀ c ∈ (cs.dropWhile p).head?, p c = false := by
  intro c hc
  have hhead := List.head?_dropWhile_not p cs
  rw [hc] at hhead
  exact hhead

theorem of_mem_takeWhile {c : Char} (h : c ∈ cs.takeWhile p) : p c = true :=
  List.all_eq_true.mp List.all_takeWhile c h

end Boundary

/-! ## Parts between separators -/

section Split

variable {p : Char → Bool}

theorem splitBy_ne_nil (p : Char → Bool) (cs : List Char) : splitBy p cs ≠ [] := by
  cases cs with
  | nil => simp [splitBy]
  | cons c cs =>
      rw [splitBy]
      split
      · simp
      · split <;> simp

theorem splitBy_cons_of_pos {c : Char} (h : p c = true) (cs : List Char) :
    splitBy p (c :: cs) = [] :: splitBy p cs := by
  obtain ⟨part, rest, hsplit⟩ := List.exists_cons_of_ne_nil (splitBy_ne_nil p cs)
  simp [splitBy, hsplit, h]

theorem splitBy_cons_of_neg {c : Char} (h : p c = false) {cs part : List Char}
    {rest : List (List Char)} (hsplit : splitBy p cs = part :: rest) :
    splitBy p (c :: cs) = (c :: part) :: rest := by
  simp [splitBy, hsplit, h]

/-- A separator parts the segments before it from those behind it. -/
theorem splitBy_append {d : Char} (hd : p d = true) (cs ds : List Char) :
    splitBy p (cs ++ d :: ds) = splitBy p cs ++ splitBy p ds := by
  induction cs with
  | nil => simp [splitBy_cons_of_pos hd, splitBy]
  | cons c cs ih =>
      cases hc : p c with
      | true => rw [List.cons_append, splitBy_cons_of_pos hc, splitBy_cons_of_pos hc, ih]; rfl
      | false =>
          obtain ⟨part, rest, hsplit⟩ := List.exists_cons_of_ne_nil (splitBy_ne_nil p cs)
          rw [hsplit] at ih
          rw [List.cons_append, splitBy_cons_of_neg hc ih, splitBy_cons_of_neg hc hsplit]
          rfl

/-- Characters that separate nothing are put behind the last segment. -/
theorem splitBy_append_of_neg {ds : List Char} (hds : ∀ d ∈ ds, p d = false) (cs : List Char) :
    ∃ front last, splitBy p cs = front ++ [last] ∧
      splitBy p (cs ++ ds) = front ++ [last ++ ds] := by
  induction cs with
  | nil =>
      refine ⟨[], [], rfl, ?_⟩
      induction ds with
      | nil => rfl
      | cons d ds ih =>
          have hrest := ih fun e he => hds e (List.mem_cons_of_mem _ he)
          exact splitBy_cons_of_neg (hds d (by simp)) hrest
  | cons c cs ih =>
      obtain ⟨front, last, hcs, happend⟩ := ih
      cases hc : p c with
      | true =>
          refine ⟨[] :: front, last, ?_, ?_⟩
          · rw [splitBy_cons_of_pos hc, hcs]; rfl
          · rw [List.cons_append, splitBy_cons_of_pos hc, happend]; rfl
      | false =>
          cases front with
          | nil =>
              refine ⟨[], c :: last, ?_, ?_⟩
              · exact splitBy_cons_of_neg hc hcs
              · exact splitBy_cons_of_neg hc happend
          | cons part front =>
              refine ⟨(c :: part) :: front, last, ?_, ?_⟩
              · exact splitBy_cons_of_neg hc hcs
              · exact splitBy_cons_of_neg hc happend

/-- Characters that separate nothing are put before the first segment. -/
theorem splitBy_append_front {front : List Char} (h : ∀ c ∈ front, p c = false) (cs : List Char) :
    splitBy p (front ++ cs) = (splitBy p cs).modifyHead (front ++ ·) := by
  obtain ⟨part, rest, hsplit⟩ := List.exists_cons_of_ne_nil (splitBy_ne_nil p cs)
  rw [hsplit, List.modifyHead_cons]
  induction front with
  | nil => exact hsplit
  | cons c front ih =>
      have hfront := ih fun d hd => h d (List.mem_cons_of_mem c hd)
      exact splitBy_cons_of_neg (h c List.mem_cons_self) hfront

/-- There is one segment more than there are separators. -/
theorem length_splitBy (p : Char → Bool) (cs : List Char) :
    (splitBy p cs).length = cs.countP p + 1 := by
  induction cs with
  | nil => rfl
  | cons c cs ih =>
      cases hc : p c with
      | true => rw [splitBy_cons_of_pos hc, List.length_cons, ih, List.countP_cons_of_pos hc]
      | false =>
          obtain ⟨part, rest, hsplit⟩ := List.exists_cons_of_ne_nil (splitBy_ne_nil p cs)
          rw [hsplit] at ih
          rw [splitBy_cons_of_neg hc hsplit, List.countP_cons_of_neg (by simp [hc]), ← ih]
          rfl

/-- A text without separators is its only segment. -/
theorem splitBy_of_not_mem {cs : List Char} (h : ∀ c ∈ cs, p c = false) : splitBy p cs = [cs] := by
  have hfront : splitBy p (cs ++ []) = [cs ++ []] := splitBy_append_front h []
  rwa [List.append_nil] at hfront

theorem mem_of_mem_splitBy {cs part : List Char} (h : part ∈ splitBy p cs) :
    ∀ c ∈ part, c ∈ cs ∧ p c = false := by
  induction cs generalizing part with
  | nil =>
      obtain rfl : part = [] := by simpa [splitBy] using h
      simp
  | cons c cs ih =>
      cases hc : p c with
      | true =>
          rw [splitBy_cons_of_pos hc] at h
          rcases List.mem_cons.mp h with rfl | h
          · simp
          · exact fun d hd => ⟨List.mem_cons_of_mem _ (ih h d hd).1, (ih h d hd).2⟩
      | false =>
          obtain ⟨first, rest, hsplit⟩ := List.exists_cons_of_ne_nil (splitBy_ne_nil p cs)
          rw [splitBy_cons_of_neg hc hsplit] at h
          rw [hsplit] at ih
          rcases List.mem_cons.mp h with rfl | h
          · intro d hd
            rcases List.mem_cons.mp hd with rfl | hd
            · exact ⟨by simp, hc⟩
            · have hmem := ih List.mem_cons_self d hd
              exact ⟨List.mem_cons_of_mem _ hmem.1, hmem.2⟩
          · have hmem := ih (List.mem_cons_of_mem _ h)
            exact fun d hd => ⟨List.mem_cons_of_mem _ (hmem d hd).1, (hmem d hd).2⟩

/-- Segments with a slash before each are the text again, if slashes alone separate them. -/
theorem flatMap_splitBy {cs : List Char} (h : ∀ c ∈ cs, p c = true → c = '/') :
    (splitBy p cs).flatMap ('/' :: ·) = '/' :: cs := by
  induction cs with
  | nil => rfl
  | cons c cs ih =>
      have hrest := ih fun d hd => h d (List.mem_cons_of_mem _ hd)
      cases hc : p c with
      | true => rw [splitBy_cons_of_pos hc, List.flatMap_cons, hrest, h c (by simp) hc]; rfl
      | false =>
          obtain ⟨part, rest, hsplit⟩ := List.exists_cons_of_ne_nil (splitBy_ne_nil p cs)
          rw [hsplit] at hrest
          rw [splitBy_cons_of_neg hc hsplit]
          simpa using hrest

end Split

/-! ## Parts around a character -/

/-- The text before the first of a character is all there is before one without that character. -/
theorem aroundFirst_append {d : Char} {cs : List Char} (h : d ∉ cs) (rest : List Char) :
    aroundFirst d (cs ++ d :: rest) = some (cs, rest) := by
  induction cs with
  | nil => simp [aroundFirst]
  | cons c cs ih =>
      obtain ⟨hc, hcs⟩ := not_or.mp (mt List.mem_cons.mpr h)
      rw [List.cons_append, aroundFirst, if_neg (Ne.symm hc), ih hcs]
      rfl

end AlarmMonitor.Text
