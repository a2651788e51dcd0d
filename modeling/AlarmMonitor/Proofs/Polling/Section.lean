import AlarmMonitor.Polling.State
import AlarmMonitor.Proofs.Polling.History

/-!
# The critical sections of a poller

A `Section` is one critical section that may write, with what it works on; `Section.apply` is what
it does to the state.  Whatever the tasks of a poller do, its state goes through a list of such
sections, so what every section keeps is kept in every run, in whatever order the sections come:

* `Section.sound_apply`: a stopped poller has no history, no clock of requests and no timer, an
  installed timer belongs to the current session, and the history is sound;
* `Section.epoch_le_apply`: the running periods and the pauses between them are numbered in the
  order in which they come, and no number comes twice.
-/

set_option autoImplicit false

namespace AlarmMonitor.Polling

/-! ## What a critical section does -/

/-- A critical section that may write, with what it works on. -/
inductive Section where
  | configure (options : Options)
  | enter (options : Options)
  | openCycle (now : Nat)
  | closeCycle (session : Nat) (hint body : String)
  | arm (session task : Nat)
  | rollBack (session : Nat)
  | stop
  | clearHistory
  deriving DecidableEq, Repr

namespace Section

/-- The state after a critical section. -/
def apply : Section → State → State
  | .configure options, s => (s.configure options).1
  | .enter options, s =>
    match s.enter options with
    | some (s, _) => s
    | none => s
  | .openCycle now, s => (s.openCycle now).1
  | .closeCycle session hint body, s => (s.closeCycle session hint body).1
  | .arm session task, s => (s.arm session task).1
  | .rollBack session, s => (s.rollBack session).1
  | .stop, s => s.stop
  | .clearHistory, s => s.clearHistory

end Section

namespace State

/-- Is the poller running, in which session, and with which timer? -/
def control (s : State) : Bool × Nat × Option TimerRef := (s.running, s.session, s.timer)

theorem control_eq_mk_iff {s : State} {running : Bool} {session : Nat} {timer : Option TimerRef} :
    s.control = (running, session, timer) ↔
      s.running = running ∧ s.session = session ∧ s.timer = timer := by
  simp only [control, Prod.mk.injEq]

theorem control_eq_iff {s t : State} :
    t.control = s.control ↔ t.running = s.running ∧ t.session = s.session ∧ t.timer = s.timer :=
  control_eq_mk_iff

/-! ## Each section by itself -/

theorem enter_of_running {s : State} (h : s.running = true) (o : Options) : s.enter o = none := by
  unfold enter
  rw [if_pos h]

theorem enter_of_stopped {s : State} (h : s.running = false) (o : Options) :
    s.enter o =
      some ({ s with config := (s.config.merge o).config, running := true
                     session := s.session + 1 },
        mergeNotes (s.config.merge o) ++
          [.started (s.config.merge o).config.endpoint (s.config.merge o).config.interval]) := by
  unfold enter
  rw [if_neg (by rw [h]; exact Bool.false_ne_true)]

theorem openCycle_of_stopped {s : State} (h : s.running = false) (now : Nat) :
    s.openCycle now = (s, .notRunning) := by
  unfold openCycle
  rw [if_pos (by rw [h]; rfl)]

theorem openCycle_of_soon {s : State} {now last : Nat} (hrun : s.running = true)
    (hlast : s.lastCycle = some last) (hsoon : Duration.between last now < debounceWindow) :
    s.openCycle now = (s, .tooSoon (.between last now)) := by
  unfold openCycle
  rw [if_neg (by rw [hrun]; exact Bool.false_ne_true), hlast]
  exact if_pos hsoon

theorem openCycle_of_late {s : State} {now : Nat} (hrun : s.running = true)
    (hlate : ∀ last, s.lastCycle = some last → ¬ Duration.between last now < debounceWindow) :
    s.openCycle now = ({ s with lastCycle := some now }, .request s.session s.config.endpoint) := by
  unfold openCycle
  rw [if_neg (by rw [hrun]; exact Bool.false_ne_true)]
  cases hlast : s.lastCycle with
  | none => rfl
  | some last => exact if_neg (hlate last hlast)

/-- The three answers of the section that opens a cycle. -/
theorem openCycle_cases (s : State) (now : Nat) :
    (s.running = false ∧ s.openCycle now = (s, .notRunning)) ∨
    (s.running = true ∧ ∃ last, s.lastCycle = some last ∧
      Duration.between last now < debounceWindow ∧
      s.openCycle now = (s, .tooSoon (.between last now))) ∨
    (s.running = true ∧
      (∀ last, s.lastCycle = some last → ¬ Duration.between last now < debounceWindow) ∧
      s.openCycle now =
        ({ s with lastCycle := some now }, .request s.session s.config.endpoint)) := by
  rcases Bool.eq_false_or_eq_true s.running with hrun | hrun
  · refine Or.inr ?_
    by_cases hsoon : ∃ last, s.lastCycle = some last ∧
        Duration.between last now < debounceWindow
    · obtain ⟨last, hlast, hago⟩ := hsoon
      exact Or.inl ⟨hrun, last, hlast, hago, openCycle_of_soon hrun hlast hago⟩
    · have hlate : ∀ last, s.lastCycle = some last →
          ¬ Duration.between last now < debounceWindow :=
        fun last hlast hago => hsoon ⟨last, hlast, hago⟩
      exact Or.inr ⟨hrun, hlate, openCycle_of_late hrun hlate⟩
  · exact Or.inl ⟨hrun, openCycle_of_stopped hrun now⟩

/-- A session is over, or it is the one that is running. -/
theorem stale_or_current (s : State) (session : Nat) :
    (s.running = false ∨ s.session ≠ session) ∨ (s.running = true ∧ s.session = session) := by
  cases hrun : s.running with
  | false => exact Or.inl (Or.inl rfl)
  | true =>
      by_cases hsession : s.session = session
      · exact Or.inr ⟨rfl, hsession⟩
      · exact Or.inl (Or.inr hsession)

theorem closeCycle_of_stale {s : State} {session : Nat}
    (h : s.running = false ∨ s.session ≠ session) (hint body : String) :
    s.closeCycle session hint body = (s, .discarded) := by
  have hstale : (!s.running || s.session != session) = true := by
    rcases h with h | h
    · rw [h]
      rfl
    · rw [bne_iff_ne.mpr h, Bool.or_true]
  unfold closeCycle
  rw [if_pos hstale]

theorem closeCycle_of_current {s : State} {session : Nat} (hrun : s.running = true)
    (hsession : s.session = session) (hint body : String) :
    s.closeCycle session hint body =
      ({ s with seen := (s.seen.insertRecords (Alarm.ofBody body)).1.prune.1 },
        .processed (Alarm.ofBody body).length
          ((s.seen.insertRecords (Alarm.ofBody body)).2.map (·.render hint))
          (s.seen.insertRecords (Alarm.ofBody body)).1.prune.2
          (s.seen.insertRecords (Alarm.ofBody body)).1.prune.1.size) := by
  have hcurrent : ¬ (!s.running || s.session != session) = true := by
    rw [hrun, hsession, bne_self_eq_false]
    exact Bool.false_ne_true
  unfold closeCycle
  rw [if_neg hcurrent]

theorem awaitsTimer_iff {s : State} {session : Nat} :
    s.awaitsTimer session = true ↔
      s.running = true ∧ s.session = session ∧ s.timer = none := by
  simp only [awaitsTimer, Bool.and_eq_true, beq_iff_eq, Option.isNone_iff_eq_none, and_assoc]

theorem arm_of_awaits {s : State} {session : Nat} (h : s.awaitsTimer session = true) (task : Nat) :
    s.arm session task = ({ s with timer := some ⟨task, session⟩ }, true) := by
  unfold arm
  rw [if_pos h]

theorem arm_of_not_awaits {s : State} {session : Nat} (h : ¬ s.awaitsTimer session = true)
    (task : Nat) : s.arm session task = (s, false) := by
  unfold arm
  rw [if_neg h]

theorem rollBack_of_awaits {s : State} {session : Nat} (h : s.awaitsTimer session = true) :
    s.rollBack session =
      ({ s with running := false, seen := s.seen.clear, lastCycle := none }, true) := by
  unfold rollBack
  rw [if_pos h]

theorem rollBack_of_not_awaits {s : State} {session : Nat} (h : ¬ s.awaitsTimer session = true) :
    s.rollBack session = (s, false) := by
  unfold rollBack
  rw [if_neg h]

/-- A timer learns an interval in its own session only. -/
theorem timerInterval_eq_none_iff {s : State} {session : Nat} :
    s.timerInterval session = none ↔ s.running = false ∨ s.session ≠ session := by
  unfold timerInterval
  by_cases h : (!s.running || s.session != session) = true
  · rw [if_pos h]
    simpa using h
  · rw [if_neg h]
    simpa using h

/-- Opening a cycle leaves the history alone. -/
theorem seen_openCycle (s : State) (now : Nat) : (s.openCycle now).1.seen = s.seen := by
  rcases s.openCycle_cases now with ⟨_, h⟩ | ⟨_, _, _, _, h⟩ | ⟨_, _, h⟩ <;> rw [h]

theorem control_openCycle (s : State) (now : Nat) : (s.openCycle now).1.control = s.control := by
  rcases s.openCycle_cases now with ⟨_, h⟩ | ⟨_, _, _, _, h⟩ | ⟨_, _, h⟩
  · rw [h]
  · rw [h]
  · rw [h]
    rfl

theorem control_closeCycle (s : State) (session : Nat) (hint body : String) :
    (s.closeCycle session hint body).1.control = s.control := by
  rcases s.stale_or_current session with hstale | ⟨hrun, hsession⟩
  · rw [closeCycle_of_stale hstale]
  · rw [closeCycle_of_current hrun hsession]
    rfl

end State

namespace Section

open State

theorem apply_enter_of_running {s : State} (h : s.running = true) (o : Options) :
    (Section.enter o).apply s = s := by
  simp only [apply, enter_of_running h]

theorem apply_enter_of_stopped {s : State} (h : s.running = false) (o : Options) :
    (Section.enter o).apply s =
      { s with config := (s.config.merge o).config, running := true
               session := s.session + 1 } := by
  simp only [apply, enter_of_stopped h]

theorem apply_closeCycle_of_stale {s : State} {session : Nat}
    (h : s.running = false ∨ s.session ≠ session) (hint body : String) :
    (Section.closeCycle session hint body).apply s = s := by
  simp only [apply, closeCycle_of_stale h]

theorem apply_closeCycle_of_current {s : State} {session : Nat} (hrun : s.running = true)
    (hsession : s.session = session) (hint body : String) :
    (Section.closeCycle session hint body).apply s =
      { s with seen := (s.seen.insertRecords (Alarm.ofBody body)).1.prune.1 } := by
  simp only [apply, closeCycle_of_current hrun hsession]

theorem apply_arm_of_awaits {s : State} {session : Nat} (h : s.awaitsTimer session = true)
    (task : Nat) :
    (Section.arm session task).apply s = { s with timer := some ⟨task, session⟩ } := by
  simp only [apply, arm_of_awaits h]

theorem apply_arm_of_not_awaits {s : State} {session : Nat} (h : ¬ s.awaitsTimer session = true)
    (task : Nat) : (Section.arm session task).apply s = s := by
  simp only [apply, arm_of_not_awaits h]

theorem apply_rollBack_of_awaits {s : State} {session : Nat} (h : s.awaitsTimer session = true) :
    (Section.rollBack session).apply s =
      { s with running := false, seen := s.seen.clear, lastCycle := none } := by
  simp only [apply, rollBack_of_awaits h]

theorem apply_rollBack_of_not_awaits {s : State} {session : Nat}
    (h : ¬ s.awaitsTimer session = true) : (Section.rollBack session).apply s = s := by
  simp only [apply, rollBack_of_not_awaits h]

end Section

namespace State

/-! ## What every section keeps -/

/-- What holds of the state between any two critical sections. -/
structure Sound (s : State) : Prop where
  /-- A stopped poller remembers nothing and has no timer. -/
  stopped : s.running = false → s.seen = .empty ∧ s.lastCycle = none ∧ s.timer = none
  /-- An installed timer polls for the current session. -/
  timer_session : ∀ t, s.timer = some t → t.session = s.session
  seen_sound : s.seen.Sound
  seen_bounds : s.seen.bounds = History.standardBounds
  /-- The interval is not below the floor. -/
  interval : minInterval ≤ s.config.interval

theorem sound_initial : initial.Sound where
  stopped _ := ⟨rfl, rfl, rfl⟩
  timer_session t h := absurd h (Option.some_ne_none t).symm
  seen_sound := History.sound_empty
  seen_bounds := rfl
  interval := by decide

theorem Sound.running_of_timer {s : State} (hs : s.Sound) {t : TimerRef} (ht : s.timer = some t) :
    s.running = true := by
  rcases Bool.eq_false_or_eq_true s.running with hrun | hrun
  · exact hrun
  · rw [(hs.stopped hrun).2.2] at ht
    exact absurd ht (Option.some_ne_none t).symm

end State

/-- Merging keeps the interval at or above the floor. -/
theorem Config.minInterval_le_merge {c : Config} (h : minInterval ≤ c.interval) (o : Options) :
    minInterval ≤ (c.merge o).config.interval := by
  have hendpoint : (c.mergeEndpoint o.endpoint).1.interval = c.interval := by
    unfold mergeEndpoint
    split
    · split <;> rfl
    · rfl
  have hmerged : (c.merge o).config =
      ((c.mergeEndpoint o.endpoint).1.mergeInterval o.interval).config := rfl
  rw [hmerged]
  unfold mergeInterval
  split
  · rename_i i _
    split
    · exact hendpoint ▸ h
    · rename_i hfloor
      split
      · exact hendpoint ▸ h
      · exact Nat.le_of_not_lt hfloor
  · exact hendpoint ▸ h

namespace Section

open State

/-- Every critical section keeps the state sound. -/
theorem sound_apply (c : Section) {s : State} (hs : s.Sound) : (c.apply s).Sound := by
  cases c with
  | configure o =>
      exact { hs with interval := Config.minInterval_le_merge hs.interval o }
  | enter o =>
      rcases Bool.eq_false_or_eq_true s.running with hrun | hrun
      · rw [apply_enter_of_running hrun]
        exact hs
      · rw [apply_enter_of_stopped hrun]
        exact
          { stopped := fun h => absurd h.symm Bool.false_ne_true
            timer_session := fun t ht => absurd ht (by rw [(hs.stopped hrun).2.2]; nofun)
            seen_sound := hs.seen_sound
            seen_bounds := hs.seen_bounds
            interval := Config.minInterval_le_merge hs.interval o }
  | openCycle now =>
      simp only [apply]
      rcases s.openCycle_cases now with ⟨_, h⟩ | ⟨_, _, _, _, h⟩ | ⟨hrun, _, h⟩
      · rw [h]
        exact hs
      · rw [h]
        exact hs
      · rw [h]
        exact { hs with stopped := fun hstop => absurd (hstop.symm.trans hrun) Bool.false_ne_true }
  | closeCycle session hint body =>
      rcases s.stale_or_current session with hstale | ⟨hrun, hsession⟩
      · rw [apply_closeCycle_of_stale hstale]
        exact hs
      · rw [apply_closeCycle_of_current hrun hsession]
        have hinsert := History.sound_insertRecords hs.seen_sound (Alarm.ofBody body)
        exact
          { hs with
            stopped := fun hstop => absurd (hstop.symm.trans hrun) Bool.false_ne_true
            seen_sound := History.sound_prune hinsert
            seen_bounds := by
              rw [History.bounds_prune, History.bounds_insertRecords]
              exact hs.seen_bounds }
  | arm session task =>
      by_cases h : s.awaitsTimer session = true
      · rw [apply_arm_of_awaits h]
        obtain ⟨hrun, hsession, _⟩ := awaitsTimer_iff.mp h
        exact
          { hs with
            stopped := fun hstop => absurd (hstop.symm.trans hrun) Bool.false_ne_true
            timer_session := fun t ht => by
              rw [← Option.some.inj ht]
              exact hsession.symm }
      · rw [apply_arm_of_not_awaits h]
        exact hs
  | rollBack session =>
      by_cases h : s.awaitsTimer session = true
      · rw [apply_rollBack_of_awaits h]
        exact
          { hs with
            stopped := fun _ =>
              ⟨History.clear_eq_empty hs.seen_bounds, rfl, (awaitsTimer_iff.mp h).2.2⟩
            seen_sound := History.sound_clear s.seen }
      · rw [apply_rollBack_of_not_awaits h]
        exact hs
  | stop =>
      exact
        { hs with
          stopped := fun _ => ⟨History.clear_eq_empty hs.seen_bounds, rfl, rfl⟩
          timer_session := fun t ht => absurd ht (Option.some_ne_none t).symm
          seen_sound := History.sound_clear s.seen }
  | clearHistory =>
      exact
        { hs with
          stopped := fun hstop =>
            ⟨History.clear_eq_empty hs.seen_bounds, (hs.stopped hstop).2⟩
          seen_sound := History.sound_clear s.seen }

end Section

/-! ## The order of the running periods -/

namespace State

/-- The number of a running period or of a pause: `2 * n` while session `n` is running, and
`2 * n + 1` in the pause behind it. -/
def epoch (s : State) : Nat := if s.running then 2 * s.session else 2 * s.session + 1

theorem epoch_of_running {s : State} (h : s.running = true) : s.epoch = 2 * s.session := by
  unfold epoch
  rw [if_pos h]

theorem epoch_of_stopped {s : State} (h : s.running = false) : s.epoch = 2 * s.session + 1 := by
  unfold epoch
  rw [h]
  rfl

theorem epoch_eq_of_control_eq {s t : State} (h : t.control = s.control) : t.epoch = s.epoch := by
  obtain ⟨hrun, hsession, _⟩ := control_eq_iff.mp h
  unfold epoch
  rw [hrun, hsession]

/-- A state with the number of a running period is in that period. -/
theorem running_of_epoch_eq {s t : State} (h : t.epoch = s.epoch) (hrun : s.running = true) :
    t.running = true ∧ t.session = s.session := by
  rw [epoch_of_running hrun] at h
  rcases Bool.eq_false_or_eq_true t.running with ht | ht
  · rw [epoch_of_running ht] at h
    exact ⟨ht, by omega⟩
  · rw [epoch_of_stopped ht] at h
    omega

theorem session_le_of_epoch_le {s t : State} (h : s.epoch ≤ t.epoch) : s.session ≤ t.session := by
  unfold epoch at h
  split at h <;> split at h <;> omega

end State

namespace Section

open State

/-- Does the section end a running period? -/
def endsPeriod (s : State) : Section → Bool
  | .stop => s.running
  | .rollBack session => s.awaitsTimer session
  | _ => false

/-- No section goes back to an earlier period or pause. -/
theorem epoch_le_apply (c : Section) (s : State) : s.epoch ≤ (c.apply s).epoch := by
  cases c with
  | configure o => exact Nat.le_refl _
  | enter o =>
      rcases Bool.eq_false_or_eq_true s.running with hrun | hrun
      · exact Nat.le_of_eq (congrArg epoch (apply_enter_of_running hrun o)).symm
      · rw [apply_enter_of_stopped hrun, epoch_of_stopped hrun, epoch_of_running rfl]
        exact Nat.le_succ _
  | openCycle now => exact Nat.le_of_eq (epoch_eq_of_control_eq (control_openCycle s now)).symm
  | closeCycle session hint body =>
      exact Nat.le_of_eq (epoch_eq_of_control_eq (control_closeCycle s session hint body)).symm
  | arm session task =>
      by_cases h : s.awaitsTimer session = true
      · rw [apply_arm_of_awaits h]
        exact Nat.le_refl _
      · exact Nat.le_of_eq (congrArg epoch (apply_arm_of_not_awaits h task)).symm
  | rollBack session =>
      by_cases h : s.awaitsTimer session = true
      · rw [apply_rollBack_of_awaits h, epoch_of_running (awaitsTimer_iff.mp h).1,
          epoch_of_stopped rfl]
        exact Nat.le_succ _
      · exact Nat.le_of_eq (congrArg epoch (apply_rollBack_of_not_awaits h)).symm
  | stop =>
      have hstop : ((Section.stop).apply s).epoch = 2 * s.session + 1 := epoch_of_stopped rfl
      rw [hstop]
      unfold epoch
      split <;> omega
  | clearHistory => exact Nat.le_refl _

/-- The end of a running period is followed by a later pause. -/
theorem epoch_lt_apply {c : Section} {s : State} (h : c.endsPeriod s = true) :
    s.epoch < (c.apply s).epoch := by
  cases c with
  | rollBack session =>
      rw [apply_rollBack_of_awaits h, epoch_of_running (awaitsTimer_iff.mp h).1,
        epoch_of_stopped rfl]
      exact Nat.lt_succ_self _
  | stop =>
      have hstop : ((Section.stop).apply s).epoch = 2 * s.session + 1 := epoch_of_stopped rfl
      rw [hstop, epoch_of_running h]
      omega
  | configure | enter | openCycle | closeCycle | arm | clearHistory =>
      exact absurd h Bool.false_ne_true

end Section

end AlarmMonitor.Polling
