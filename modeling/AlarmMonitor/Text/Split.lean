/-!
# Splitting a text
-/

set_option autoImplicit false

namespace AlarmMonitor.Text

/-- The parts of a text between the characters of a class; there is always at least one. -/
def splitBy (p : Char → Bool) : List Char → List (List Char)
  | [] => [[]]
  | c :: cs =>
    match splitBy p cs with
    | [] => [[]]
    | part :: rest => if p c then [] :: part :: rest else (c :: part) :: rest

/-- Is one text at the front of another, and if so, what follows it? -/
def behind : List Char → List Char → Option (List Char)
  | [], cs => some cs
  | _ :: _, [] => none
  | d :: ds, c :: cs => if d = c then behind ds cs else none

theorem behind_eq_some_iff {front cs rest : List Char} :
    behind front cs = some rest ↔ cs = front ++ rest := by
  induction front generalizing cs with
  | nil => simp [behind, eq_comm]
  | cons d ds ih =>
    cases cs with
    | nil => simp [behind]
    | cons c cs =>
      by_cases h : d = c
      · simp [behind, h, ih]
      · simp [behind, h, Ne.symm h]

/-- The texts before and behind the first of a character. -/
def aroundFirst (d : Char) : List Char → Option (List Char × List Char)
  | [] => none
  | c :: cs =>
    if c = d then some ([], cs)
    else (aroundFirst d cs).map fun (before, behind) => (c :: before, behind)

/-- The texts before and behind the last of a character. -/
def aroundLast (d : Char) : List Char → Option (List Char × List Char)
  | [] => none
  | c :: cs =>
    match aroundLast d cs with
    | some (before, behind) => some (c :: before, behind)
    | none => if c = d then some ([], cs) else none

theorem eq_of_aroundFirst {d : Char} {cs before behind : List Char}
    (h : aroundFirst d cs = some (before, behind)) : cs = before ++ d :: behind := by
  induction cs generalizing before with
  | nil => simp [aroundFirst] at h
  | cons c cs ih =>
    by_cases hc : c = d
    · simp [aroundFirst, hc] at h
      simp [h.1, h.2, hc]
    · simp only [aroundFirst, hc, if_false, Option.map_eq_some_iff] at h
      obtain ⟨⟨b, a⟩, hba, he⟩ := h
      obtain ⟨rfl, rfl⟩ := Prod.mk.inj he
      simp [ih hba]

theorem eq_of_aroundLast {d : Char} {cs before behind : List Char}
    (h : aroundLast d cs = some (before, behind)) : cs = before ++ d :: behind := by
  induction cs generalizing before with
  | nil => simp [aroundLast] at h
  | cons c cs ih =>
    cases hr : aroundLast d cs with
    | some p =>
      simp only [aroundLast, hr, Option.some.injEq, Prod.mk.injEq] at h
      obtain ⟨rfl, rfl⟩ := h
      simp [ih hr]
    | none =>
      by_cases hc : c = d
      · simp [aroundLast, hr, hc] at h
        simp [h.1, h.2, hc]
      · simp [aroundLast, hr, hc] at h

end AlarmMonitor.Text
