import AlarmMonitor.Polling.Cycle
import AlarmMonitor.Proofs.Polling.Section

/-!
# The steps of a cycle

`Cycle.Step` lists the eight steps that a cycle can take, each with the state, the cycle and the
effects behind it; `Cycle.step_eq_some_iff` says that these are the steps that it takes.
-/

set_option autoImplicit false

namespace AlarmMonitor.Polling

namespace Cycle

/-- The steps of a cycle of the task at a place, in a state of its poller. -/
inductive Step (hint : String) (now place : Nat) (s : State) :
    Cycle → State × Cycle × List Effect → Prop where
  /-- A stopped poller begins no request. -/
  | notRunning (h : s.running = false) : Step hint now place s .ready (s, .ended .notRunning, [])
  /-- The last request began too recently. -/
  | debounced {last : Nat} (hrun : s.running = true) (hlast : s.lastCycle = some last)
      (hsoon : Duration.between last now < debounceWindow) :
      Step hint now place s .ready
        (s, .ended .debounced, [.note (.cycleSkipped (.between last now))])
  /-- A request begins in the session that runs. -/
  | request (hrun : s.running = true)
      (hlate : ∀ last, s.lastCycle = some last →
        ¬ Duration.between last now < debounceWindow) :
      Step hint now place s .ready
        ({ s with lastCycle := some now }, .waiting s.session s.config.endpoint,
          [.request place s.config.endpoint])
  /-- The request has failed. -/
  | fetchFailed {session : Nat} {endpoint message : String} :
      Step hint now place s (.answered session endpoint (.failure message))
        (s, .ended .fetchFailed, [.note (.fetchFailed endpoint message)])
  /-- The session of the request is over. -/
  | discarded {session : Nat} {endpoint body : String}
      (h : s.running = false ∨ s.session ≠ session) :
      Step hint now place s (.answered session endpoint (.body body))
        (s, .ended .discarded, [.note .replyDiscarded])
  /-- The reply is taken in. -/
  | taken {session : Nat} {endpoint body : String} (hrun : s.running = true)
      (hsession : s.session = session) :
      Step hint now place s (.answered session endpoint (.body body))
        ((Section.closeCycle session hint body).apply s,
          .showing (Alarm.ofBody body).length
            ((s.seen.insertRecords (Alarm.ofBody body)).2.map (·.render hint)).length
            ((s.seen.insertRecords (Alarm.ofBody body)).2.map (·.render hint)),
          pruneNotes (s.seen.insertRecords (Alarm.ofBody body)).1.prune.2
            (s.seen.insertRecords (Alarm.ofBody body)).1.prune.1.size)
  /-- The next text is shown. -/
  | shown {fetched surfaced : Nat} {text : String} {rest : List String} :
      Step hint now place s (.showing fetched surfaced (text :: rest))
        (s, .showing fetched surfaced rest, [.show text])
  /-- All texts have been shown. -/
  | processed {fetched surfaced : Nat} :
      Step hint now place s (.showing fetched surfaced [])
        (s, .ended (.processed fetched surfaced), [])

theorem step_eq_some_iff {hint : String} {now place : Nat} {s : State} {cycle : Cycle}
    {r : State × Cycle × List Effect} :
    cycle.step hint now place s = some r ↔ Step hint now place s cycle r := by
  constructor
  · intro h
    cases cycle with
    | ready =>
        rcases s.openCycle_cases now with ⟨hstop, ho⟩ | ⟨hrun, last, hlast, hsoon, ho⟩ |
          ⟨hrun, hlate, ho⟩
        · simp only [step, ho] at h
          cases h
          exact .notRunning hstop
        · simp only [step, ho] at h
          cases h
          exact .debounced hrun hlast hsoon
        · simp only [step, ho] at h
          cases h
          exact .request hrun hlate
    | waiting | ended => exact absurd h nofun
    | answered session endpoint reply =>
        cases reply with
        | failure message =>
            cases h
            exact .fetchFailed
        | body text =>
            rcases s.stale_or_current session with hstale | ⟨hrun, hsession⟩
            · simp only [step, State.closeCycle_of_stale hstale] at h
              cases h
              exact .discarded hstale
            · have hstate := Section.apply_closeCycle_of_current hrun hsession hint text
              simp only [step, State.closeCycle_of_current hrun hsession] at h
              cases h
              rw [← hstate]
              exact .taken hrun hsession
    | showing fetched surfaced rest =>
        cases rest with
        | nil =>
            cases h
            exact .processed
        | cons text rest =>
            cases h
            exact .shown
  · intro h
    cases h with
    | notRunning hstop => simp only [step, State.openCycle_of_stopped hstop]
    | debounced hrun hlast hsoon => simp only [step, State.openCycle_of_soon hrun hlast hsoon]
    | request hrun hlate => simp only [step, State.openCycle_of_late hrun hlate]
    | fetchFailed => rfl
    | discarded hstale => simp only [step, State.closeCycle_of_stale hstale]
    | taken hrun hsession =>
        rw [Section.apply_closeCycle_of_current hrun hsession]
        simp only [step, State.closeCycle_of_current hrun hsession]
    | shown => rfl
    | processed => rfl

end Cycle

end AlarmMonitor.Polling
