import AlarmMonitor.Proofs.Polling.Run

/-!
# Records of runs

A record is kept of a run by adding, at each of its transitions, what is of interest there.  What a
record says is proved one transition at a time, under a rule for what may happen.

* `System.heeds`: every event of a run heeds a rule at its moment;
* `System.recording_induction`: what every transition keeps, of the record so far and the poller;
* `System.entry_induction`: what holds of every entry of a record and the entries before it;
* `System.timeline`: the effects of a run with their instants.
-/

set_option autoImplicit false

namespace AlarmMonitor.Polling

namespace System

/-! ## Rules -/

/-- Does every event of the run heed the rule at its moment? -/
def heeds (rule : System → Event → Bool) (s : System) : List Event → Bool
  | [] => true
  | e :: rest =>
    rule s e &&
      match s.apply e with
      | some (t, _) => t.heeds rule rest
      | none => true

section

variable {rule : System → Event → Bool}

theorem heeds_cons {s t : System} {e : Event} {rest : List Event} {effects : List Effect}
    (h : s.apply e = some (t, effects)) :
    s.heeds rule (e :: rest) = true ↔ rule s e = true ∧ t.heeds rule rest = true := by
  simp only [heeds, h, Bool.and_eq_true]

theorem heeds_append {s t : System} {before after : List Event} {effects : List Effect}
    (h : s.run before = some (t, effects)) :
    s.heeds rule (before ++ after) = true ↔
      s.heeds rule before = true ∧ t.heeds rule after = true := by
  induction before generalizing s effects with
  | nil =>
      cases h
      exact ⟨fun hafter => ⟨rfl, hafter⟩, fun hboth => hboth.2⟩
  | cons e rest ih =>
      obtain ⟨u, first, later, happly, hrun, _⟩ := run_cons_eq_some_iff.mp h
      rw [List.cons_append, heeds_cons happly, heeds_cons happly, ih hrun, and_assoc]

/-- The rule that allows everything. -/
def anything (_ : System) (_ : Event) : Bool := true

theorem heeds_anything (s : System) (events : List Event) : s.heeds anything events = true := by
  induction events generalizing s with
  | nil => rfl
  | cons e rest ih =>
      cases h : s.apply e with
      | none => simp only [heeds, h, anything, Bool.and_self]
      | some r => exact (heeds_cons h).mpr ⟨rfl, ih r.1⟩

end

/-! ## Records -/

section

variable {α : Type} {entries : System → Event → System → List Effect → List α}
  {rule : System → Event → Bool}

/-- The record of a run to which each of its transitions adds its entries, one after the other. -/
def record (entries : System → Event → System → List Effect → List α) (s : System) :
    List Event → List α
  | [] => []
  | e :: rest =>
    match s.apply e with
    | some (t, effects) => entries s e t effects ++ t.record entries rest
    | none => []

theorem record_cons {s t : System} {e : Event} {effects : List Effect}
    (h : s.apply e = some (t, effects)) (rest : List Event) :
    s.record entries (e :: rest) = entries s e t effects ++ t.record entries rest := by
  simp only [record, h]

theorem record_append {s t : System} {before : List Event} {effects : List Effect}
    (h : s.run before = some (t, effects)) (after : List Event) :
    s.record entries (before ++ after) = s.record entries before ++ t.record entries after := by
  induction before generalizing s effects with
  | nil =>
      cases h
      rfl
  | cons e rest ih =>
      obtain ⟨u, first, later, happly, hrun, _⟩ := run_cons_eq_some_iff.mp h
      rw [List.cons_append, record_cons happly, record_cons happly, ih hrun, List.append_assoc]

/-- What every transition under the rule keeps, of the record so far and the poller, is kept by a
run under the rule. -/
theorem recording_induction {P : List α → System → Prop}
    (hstep : ∀ {past s t e effects}, Reachable s → P past s → rule s e = true →
      s.apply e = some (t, effects) → P (past ++ entries s e t effects) t)
    {s t : System} {events : List Event} {effects : List Effect} {past : List α}
    (hreach : Reachable s) (hs : P past s) (hheeds : s.heeds rule events = true)
    (hrun : s.run events = some (t, effects)) : P (past ++ s.record entries events) t := by
  induction events generalizing s past effects with
  | nil =>
      cases hrun
      have hrecord : past ++ t.record entries [] = past := List.append_nil past
      rw [hrecord]
      exact hs
  | cons e rest ih =>
      obtain ⟨u, first, later, happly, hrest, _⟩ := run_cons_eq_some_iff.mp hrun
      obtain ⟨hrule, hlater⟩ := (heeds_cons happly).mp hheeds
      rw [record_cons happly, ← List.append_assoc]
      exact ih (hreach.apply happly) (hstep hreach hs hrule happly) hlater hrest

/-- What holds of a new poller and an empty record, and is kept by every transition under the rule,
is kept by a run under the rule. -/
theorem record_induction {P : List α → System → Prop} (hnew : ∀ hint, P [] (new hint))
    (hstep : ∀ {past s t e effects}, Reachable s → P past s → rule s e = true →
      s.apply e = some (t, effects) → P (past ++ entries s e t effects) t)
    {hint : String} {s : System} {events : List Event} {effects : List Effect}
    (hheeds : (new hint).heeds rule events = true)
    (hrun : (new hint).run events = some (s, effects)) :
    P ((new hint).record entries events) s :=
  recording_induction hstep (reachable_new hint) (hnew hint) hheeds hrun

/-- The same for what is said of the poller alone. -/
theorem heeding_induction {P : System → Prop} (hnew : ∀ hint, P (new hint))
    (hstep : ∀ {s t e effects}, Reachable s → P s → rule s e = true →
      s.apply e = some (t, effects) → P t)
    {hint : String} {s : System} {events : List Event} {effects : List Effect}
    (hheeds : (new hint).heeds rule events = true)
    (hrun : (new hint).run events = some (s, effects)) : P s :=
  @record_induction Unit (fun _ _ _ _ => []) rule (fun _ s => P s) hnew hstep hint s events effects
    hheeds hrun

/-- What every transition makes of its entries, given what was kept so far, holds of every entry of
a record and the entries before it. -/
theorem entry_of_record {P : List α → System → Prop} {Q : List α → α → Prop}
    (hstep : ∀ {past s t e effects}, Reachable s → P past s → rule s e = true →
      s.apply e = some (t, effects) → P (past ++ entries s e t effects) t)
    (hentry : ∀ {past s t e effects before x after}, Reachable s → P past s → rule s e = true →
      s.apply e = some (t, effects) → entries s e t effects = before ++ x :: after →
        Q (past ++ before) x)
    {s t : System} {events : List Event} {effects : List Effect} {past first last : List α} {x : α}
    (hreach : Reachable s) (hs : P past s) (hheeds : s.heeds rule events = true)
    (hrun : s.run events = some (t, effects))
    (hrecord : s.record entries events = first ++ x :: last) : Q (past ++ first) x := by
  induction events generalizing s past first effects with
  | nil =>
      have hempty : [] = first ++ x :: last := hrecord
      exact absurd hempty.symm (by simp)
  | cons e rest ih =>
      obtain ⟨u, seen, later, happly, hrest, _⟩ := run_cons_eq_some_iff.mp hrun
      obtain ⟨hrule, hlater⟩ := (heeds_cons happly).mp hheeds
      have hnext := hstep hreach hs hrule happly
      rw [record_cons happly] at hrecord
      rcases List.append_eq_append_iff.mp hrecord with ⟨middle, rfl, htail⟩ | ⟨middle, hhead, htail⟩
      · rw [← List.append_assoc]
        exact ih (hreach.apply happly) hnext hlater hrest htail
      · cases middle with
        | nil =>
            have htail' : u.record entries rest = [] ++ x :: last := htail.symm
            have hx := ih (hreach.apply happly) hnext hlater hrest htail'
            rw [List.append_nil] at hhead hx
            rw [← hhead]
            exact hx
        | cons y middle =>
            rw [List.cons_append, List.cons.injEq] at htail
            rw [← htail.1] at hhead
            exact hentry hreach hs hrule happly hhead

/-- The same from a new poller and an empty record on. -/
theorem entry_induction {P : List α → System → Prop} {Q : List α → α → Prop}
    (hnew : ∀ hint, P [] (new hint))
    (hstep : ∀ {past s t e effects}, Reachable s → P past s → rule s e = true →
      s.apply e = some (t, effects) → P (past ++ entries s e t effects) t)
    (hentry : ∀ {past s t e effects before x after}, Reachable s → P past s → rule s e = true →
      s.apply e = some (t, effects) → entries s e t effects = before ++ x :: after →
        Q (past ++ before) x)
    {hint : String} {s : System} {events : List Event} {effects : List Effect}
    {first last : List α} {x : α} (hheeds : (new hint).heeds rule events = true)
    (hrun : (new hint).run events = some (s, effects))
    (hrecord : (new hint).record entries events = first ++ x :: last) : Q first x :=
  entry_of_record hstep hentry (reachable_new hint) (hnew hint) hheeds hrun hrecord

end

/-! ## The timeline -/

/-- The effects of a run with the instants at which they are seen. -/
def timeline (s : System) (events : List Event) : List (Nat × Effect) :=
  s.record (fun s _ _ effects => effects.map fun x => (s.now, x)) events

/-- The timeline shows all effects of a run, in order. -/
theorem map_snd_timeline {s t : System} {events : List Event} {effects : List Effect}
    (h : s.run events = some (t, effects)) : (s.timeline events).map (·.2) = effects := by
  induction events generalizing s effects with
  | nil =>
      cases h
      rfl
  | cons e rest ih =>
      obtain ⟨u, first, later, happly, hrun, rfl⟩ := run_cons_eq_some_iff.mp h
      have hlater : (u.timeline rest).map (·.2) = later := ih hrun
      have hline : s.timeline (e :: rest) =
          (first.map fun x => (s.now, x)) ++ u.timeline rest := record_cons happly rest
      rw [hline, List.map_append, hlater, List.map_map]
      exact congrArg (· ++ later) (List.map_id first)

end System

end AlarmMonitor.Polling
