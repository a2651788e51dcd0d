import AlarmMonitor.Proofs.Polling.Transition

/-!
# The runs of a poller

A run is taken apart at its first event or at any moment in between, and what every transition
keeps is kept by every run:

* `run_cons_eq_some_iff`, `run_append_eq_some_iff`: the moments of a run;
* `Reachable.induction`: what holds of a new poller and is kept by every transition;
* `sound_of_reachable`, `epoch_le_of_run`: what the critical sections keep, for whole runs.
-/

set_option autoImplicit false

namespace AlarmMonitor.Polling

/-- Losing the timer keeps a state sound. -/
theorem State.Sound.without_timer {s : State} (hs : s.Sound) :
    State.Sound { s with timer := none } :=
  { hs with
    stopped := fun hstop => ⟨(hs.stopped hstop).1, (hs.stopped hstop).2.1, rfl⟩
    timer_session := fun t ht => absurd ht (Option.some_ne_none t).symm }

namespace System

/-! ## The moments of a run -/

theorem run_cons (s : System) (e : Event) (rest : List Event) :
    s.run (e :: rest) =
      (s.apply e).bind fun r => (r.1.run rest).bind fun q => some (q.1, r.2 ++ q.2) := rfl

theorem run_cons_eq_some_iff {s u : System} {e : Event} {rest : List Event}
    {effects : List Effect} :
    s.run (e :: rest) = some (u, effects) ↔
      ∃ t first later, s.apply e = some (t, first) ∧ t.run rest = some (u, later) ∧
        effects = first ++ later := by
  rw [run_cons, Option.bind_eq_some_iff]
  constructor
  · rintro ⟨⟨t, first⟩, happly, hrest⟩
    obtain ⟨⟨v, later⟩, hrun, heq⟩ := Option.bind_eq_some_iff.mp hrest
    cases heq
    exact ⟨t, first, later, happly, hrun, rfl⟩
  · rintro ⟨t, first, later, happly, hrun, rfl⟩
    refine ⟨(t, first), happly, ?_⟩
    exact Option.bind_eq_some_iff.mpr ⟨(u, later), hrun, rfl⟩

theorem run_append_eq_some_iff {s u : System} {before after : List Event}
    {effects : List Effect} :
    s.run (before ++ after) = some (u, effects) ↔
      ∃ t first later, s.run before = some (t, first) ∧ t.run after = some (u, later) ∧
        effects = first ++ later := by
  induction before generalizing s effects with
  | nil =>
      constructor
      · intro h
        exact ⟨s, [], effects, rfl, h, rfl⟩
      · rintro ⟨t, first, later, hfirst, hlater, rfl⟩
        cases hfirst
        exact hlater
  | cons e rest ih =>
      rw [List.cons_append, run_cons_eq_some_iff]
      constructor
      · rintro ⟨t, first, later, happly, hrun, rfl⟩
        obtain ⟨v, middle, last, hmiddle, hlast, rfl⟩ := ih.mp hrun
        refine ⟨v, first ++ middle, last, ?_, hlast, (List.append_assoc _ _ _).symm⟩
        exact run_cons_eq_some_iff.mpr ⟨t, first, middle, happly, hmiddle, rfl⟩
      · rintro ⟨v, first, last, hfirst, hlast, rfl⟩
        obtain ⟨t, early, middle, happly, hmiddle, rfl⟩ := run_cons_eq_some_iff.mp hfirst
        refine ⟨t, early, middle ++ last, happly, ?_, List.append_assoc _ _ _⟩
        exact ih.mpr ⟨v, middle, last, hmiddle, hlast, rfl⟩

/-- What every transition keeps is kept by a run. -/
theorem run_induction {P : System → Prop}
    (hstep : ∀ {s t e effects}, P s → s.apply e = some (t, effects) → P t)
    {s u : System} {events : List Event} {effects : List Effect} (hs : P s)
    (h : s.run events = some (u, effects)) : P u := by
  induction events generalizing s effects with
  | nil =>
      cases h
      exact hs
  | cons e rest ih =>
      obtain ⟨t, first, later, happly, hrun, _⟩ := run_cons_eq_some_iff.mp h
      exact ih (hstep hs happly) hrun

theorem reachable_new (hint : String) : Reachable (new hint) := ⟨hint, [], [], rfl⟩

theorem Reachable.run {s t : System} {events : List Event} {effects : List Effect}
    (hs : Reachable s) (h : s.run events = some (t, effects)) : Reachable t := by
  obtain ⟨hint, before, first, hbefore⟩ := hs
  exact ⟨hint, before ++ events, first ++ effects,
    run_append_eq_some_iff.mpr ⟨s, first, effects, hbefore, h, rfl⟩⟩

theorem Reachable.apply {s t : System} {e : Event} {effects : List Effect}
    (hs : Reachable s) (h : s.apply e = some (t, effects)) : Reachable t := by
  have hrun : s.run [e] = some (t, effects) :=
    run_cons_eq_some_iff.mpr ⟨t, effects, [], h, rfl, (List.append_nil _).symm⟩
  exact hs.run hrun

/-- What holds of a new poller and is kept by every transition of a reachable one holds of every
reachable poller. -/
theorem Reachable.induction {P : System → Prop} (hnew : ∀ hint, P (new hint))
    (hstep : ∀ {s t e effects}, Reachable s → P s → s.apply e = some (t, effects) → P t)
    {s : System} (h : Reachable s) : P s := by
  obtain ⟨hint, events, effects, hrun⟩ := h
  have hboth : Reachable s ∧ P s :=
    run_induction (P := fun s => Reachable s ∧ P s)
      (fun ⟨hs, hp⟩ happly => ⟨hs.apply happly, hstep hs hp happly⟩)
      ⟨reachable_new hint, hnew hint⟩ hrun
  exact hboth.2

/-! ## The state along a run -/

/-- What a critical section keeps, and the loss of the timer keeps, is kept by a transition. -/
theorem state_induction {P : State → Prop} (hsection : ∀ (c : Section) {s}, P s → P (c.apply s))
    (htimer : ∀ {s}, P s → P { s with timer := none }) {s t : System} {e : Event}
    {effects : List Effect} (hs : P s.state) (h : s.apply e = some (t, effects)) : P t.state := by
  have hthrough : P (s.state.through (s.section? e)) := by
    cases s.section? e with
    | none => exact hs
    | some c => exact hsection c hs
  rcases state_of_apply h with heq | heq
  · rw [heq]
    exact hthrough
  · rw [heq]
    exact htimer hthrough

theorem sound_of_apply {s t : System} {e : Event} {effects : List Effect} (hs : s.state.Sound)
    (h : s.apply e = some (t, effects)) : t.state.Sound :=
  state_induction (P := State.Sound) Section.sound_apply State.Sound.without_timer hs h

/-- The state of every reachable poller is sound. -/
theorem sound_of_reachable {s : System} (h : Reachable s) : s.state.Sound :=
  Reachable.induction (P := fun s => s.state.Sound) (fun _ => State.sound_initial)
    (fun _ hs happly => sound_of_apply hs happly) h

/-- No transition goes back to an earlier period or pause. -/
theorem epoch_le_of_apply {s t : System} {e : Event} {effects : List Effect}
    (h : s.apply e = some (t, effects)) : s.state.epoch ≤ t.state.epoch :=
  state_induction (P := fun u => s.state.epoch ≤ u.epoch)
    (fun c {u} hu => Nat.le_trans hu (Section.epoch_le_apply c u)) (fun hu => hu)
    (Nat.le_refl _) h

/-- No run goes back to an earlier period or pause. -/
theorem epoch_le_of_run {s t : System} {events : List Event} {effects : List Effect}
    (h : s.run events = some (t, effects)) : s.state.epoch ≤ t.state.epoch :=
  run_induction (P := fun u => s.state.epoch ≤ u.state.epoch)
    (fun hu happly => Nat.le_trans hu (epoch_le_of_apply happly)) (Nat.le_refl _) h

end System

end AlarmMonitor.Polling
