import AlarmMonitor.Proofs.Polling.Run

/-!
# The log of a run

What happens to a running period and to the history of alarms in the course of a run: starts,
stops, undone starts, requests to forget, replies that are taken in, and the keys that are new in
them.  Each of these is the work of one critical section, which leaves a `Mark` in the log.

* `Section.marks_of_processed`: the keys that are marked as surfaced are those of the records whose
  texts are to be shown;
* `System.exists_moment_of_mem_log`: a mark in the log of a run was made at some moment of it;
* `System.epoch_lt_of_turns`: a mark that ends or begins a running period moves to a later one.
-/

set_option autoImplicit false

namespace AlarmMonitor.Polling

open AlarmMonitor.Alarm (Key Record)

/-! ## Marks -/

/-- What a critical section means for the running period and the history of alarms. -/
inductive Mark where
  /-- A start took effect. -/
  | opened
  /-- The poller was stopped. -/
  | stopped
  /-- A start was undone. -/
  | rolledBack
  /-- The history was cleared by request. -/
  | cleared
  /-- A reply with records of these keys was taken in. -/
  | taken (keys : List Key)
  /-- A record with this key was new, and its text is to be shown. -/
  | surfaced (key : Key)
  deriving DecidableEq, Repr

namespace Mark

/-- Is the history forgotten here? -/
def forgets : Mark → Bool
  | .stopped | .rolledBack | .cleared => true
  | _ => false

/-- Does a running period end or begin here? -/
def turns : Mark → Bool
  | .opened | .stopped | .rolledBack => true
  | _ => false

/-- The key that is surfaced here. -/
def surfaced? : Mark → Option Key
  | .surfaced k => some k
  | _ => none

/-- The keys of the reply that is taken in here. -/
def takenKeys : Mark → List Key
  | .taken keys => keys
  | _ => []

end Mark

/-- The marks that a critical section leaves in the log, in the order in which they are made. -/
def Section.marks (s : State) : Section → List Mark
  | .enter _ => if s.running then [] else [.opened]
  | .stop => [.stopped]
  | .rollBack session => if s.awaitsTimer session then [.rolledBack] else []
  | .clearHistory => [.cleared]
  | .closeCycle session _ body =>
    if !s.running || s.session != session then []
    else
      .taken ((Alarm.ofBody body).map (·.key)) ::
        (s.seen.insertRecords (Alarm.ofBody body)).2.map fun r => .surfaced r.key
  | .configure _ | .openCycle _ | .arm .. => []

namespace System

/-- The marks of a transition. -/
def marks (s : System) (e : Event) : List Mark :=
  match s.section? e with
  | some c => c.marks s.state
  | none => []

/-- The log of a run: the marks of its transitions, one after the other. -/
def log (s : System) : List Event → List Mark
  | [] => []
  | e :: rest =>
    s.marks e ++
      match s.apply e with
      | some (t, _) => t.log rest
      | none => []

theorem log_cons {s t : System} {e : Event} {effects : List Effect}
    (h : s.apply e = some (t, effects)) (rest : List Event) :
    s.log (e :: rest) = s.marks e ++ t.log rest := by
  simp only [log, h]

/-- A mark in the log of a run was made by one of its transitions. -/
theorem exists_moment_of_mem_log {s u : System} {events : List Event} {effects : List Effect}
    {m : Mark} (h : s.run events = some (u, effects)) (hm : m ∈ s.log events) :
    ∃ before e after t v first middle last, events = before ++ e :: after ∧
      s.run before = some (t, first) ∧ t.apply e = some (v, middle) ∧
      v.run after = some (u, last) ∧ m ∈ t.marks e := by
  induction events generalizing s effects with
  | nil => exact absurd hm List.not_mem_nil
  | cons e rest ih =>
      obtain ⟨t, first, later, happly, hrun, _⟩ := run_cons_eq_some_iff.mp h
      rw [log_cons happly] at hm
      rcases List.mem_append.mp hm with hmark | hrest
      · exact ⟨[], e, rest, s, t, [], first, later, rfl, rfl, happly, hrun, hmark⟩
      · obtain ⟨before, e', after, t', v, early, middle, last, rfl, hbefore, he', hafter, hmark⟩ :=
          ih hrun hrest
        refine ⟨e :: before, e', after, t', v, first ++ early, middle, last, rfl, ?_, he', hafter,
          hmark⟩
        exact run_cons_eq_some_iff.mpr ⟨t, first, early, happly, hbefore, rfl⟩

end System

namespace Section

/-- A reply that is thrown away leaves no mark. -/
theorem marks_closeCycle_of_stale {s : State} {session : Nat}
    (h : s.running = false ∨ s.session ≠ session) (hint body : String) :
    (Section.closeCycle session hint body).marks s = [] := by
  have hstale : (!s.running || s.session != session) = true := by
    rcases h with h | h
    · rw [h]
      rfl
    · rw [bne_iff_ne.mpr h, Bool.or_true]
  simp only [marks, hstale, if_true]

theorem marks_closeCycle_of_current {s : State} {session : Nat} (hrun : s.running = true)
    (hsession : s.session = session) (hint body : String) :
    (Section.closeCycle session hint body).marks s =
      .taken ((Alarm.ofBody body).map (·.key)) ::
        ((s.seen.insertRecords (Alarm.ofBody body)).2.map (·.key)).map .surfaced := by
  have hcurrent : (!s.running || s.session != session) = false := by
    rw [hrun, hsession, bne_self_eq_false]
    rfl
  simp only [marks, hcurrent, Bool.false_eq_true, if_false, List.map_map]
  rfl

/-- The records that are surfaced are those whose texts are to be shown. -/
theorem marks_of_processed {s : State} {session fetched evicted remaining : Nat}
    {hint body : String} {texts : List String}
    (h : (s.closeCycle session hint body).2 = .processed fetched texts evicted remaining) :
    ∃ fresh : List Record, fresh.Sublist (Alarm.ofBody body) ∧
      texts = fresh.map (·.render hint) ∧
      (Section.closeCycle session hint body).marks s =
        .taken ((Alarm.ofBody body).map (·.key)) :: (fresh.map (·.key)).map .surfaced := by
  rcases s.stale_or_current session with hstale | ⟨hrun, hsession⟩
  · rw [State.closeCycle_of_stale hstale] at h
    exact absurd h nofun
  · rw [State.closeCycle_of_current hrun hsession] at h
    cases h
    exact ⟨_, History.fresh_sublist _ _, rfl, marks_closeCycle_of_current hrun hsession hint body⟩

/-- From a running period every mark that ends or begins one leads to a later pause or period. -/
theorem epoch_lt_of_turns {c : Section} {s : State} {m : Mark} (hrun : s.running = true)
    (hm : m ∈ c.marks s) (hturns : m.turns = true) : s.epoch < (c.apply s).epoch := by
  cases c with
  | stop => exact epoch_lt_apply (c := .stop) hrun
  | rollBack session =>
      simp only [marks] at hm
      split at hm
      · rename_i hawaits
        exact epoch_lt_apply (c := .rollBack session) hawaits
      · exact absurd hm List.not_mem_nil
  | enter o =>
      simp only [marks, hrun, if_true] at hm
      exact absurd hm List.not_mem_nil
  | clearHistory =>
      rw [List.mem_singleton.mp hm] at hturns
      exact absurd hturns nofun
  | closeCycle session hint body =>
      rcases s.stale_or_current session with hstale | ⟨_, hsession⟩
      · rw [marks_closeCycle_of_stale hstale] at hm
        exact absurd hm List.not_mem_nil
      · rw [marks_closeCycle_of_current hrun hsession] at hm
        rcases List.mem_cons.mp hm with rfl | hkey
        · exact absurd hturns nofun
        · obtain ⟨_, _, rfl⟩ := List.mem_map.mp hkey
          exact absurd hturns nofun
  | configure | openCycle | arm => exact absurd hm List.not_mem_nil

end Section

/-- The same for the transition that makes the mark. -/
theorem System.epoch_lt_of_turns {s t : System} {e : Event} {effects : List Effect} {m : Mark}
    (h : s.apply e = some (t, effects)) (hrun : s.state.running = true) (hm : m ∈ s.marks e)
    (hturns : m.turns = true) : s.state.epoch < t.state.epoch := by
  have hthrough : s.state.epoch < (s.state.through (s.section? e)).epoch := by
    unfold marks at hm
    cases hsection : s.section? e with
    | none =>
        rw [hsection] at hm
        exact absurd hm List.not_mem_nil
    | some c =>
        rw [hsection] at hm
        exact Section.epoch_lt_of_turns hrun hm hturns
  rcases state_of_apply h with heq | heq
  · rw [heq]
    exact hthrough
  · rw [heq]
    exact hthrough

end AlarmMonitor.Polling
