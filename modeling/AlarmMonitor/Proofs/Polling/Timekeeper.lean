import AlarmMonitor.Proofs.Polling.Lifecycle
import AlarmMonitor.Proofs.Polling.Progress

/-!
# The timer of a running period

Of all timers ever left behind for a session, the one that is installed while the session runs is
the only one, and it lasts as long as the session and the poller do.

* `System.installed_of_apply`: a timer stays installed as long as its session runs;
* `System.Timekeeping`: every timer of the session that runs is the installed one;
* `System.timer_lasts`: such a timer is neither told to end nor comes to its end.
-/

set_option autoImplicit false

namespace AlarmMonitor.Polling

/-- As long as the session runs, its timer stays installed. -/
theorem Section.timer_apply (c : Section) {s : State} {r : TimerRef} (hs : s.Sound)
    (htimer : s.timer = some r) (hrun : (c.apply s).running = true) :
    (c.apply s).timer = some r := by
  have hnot : ∀ session, ¬ s.awaitsTimer session = true := by
    intro session hawaits
    rw [(State.awaitsTimer_iff.mp hawaits).2.2] at htimer
    exact absurd htimer nofun
  cases c with
  | configure | clearHistory => exact htimer
  | enter o =>
      rw [apply_enter_of_running (hs.running_of_timer htimer)]
      exact htimer
  | openCycle now =>
      have hcontrol := State.control_eq_iff.mp (State.control_openCycle s now)
      exact hcontrol.2.2.trans htimer
  | closeCycle session hint body =>
      have hcontrol := State.control_eq_iff.mp (State.control_closeCycle s session hint body)
      exact hcontrol.2.2.trans htimer
  | arm session =>
      rw [apply_arm_of_not_awaits (hnot session)]
      exact htimer
  | rollBack session =>
      rw [apply_rollBack_of_not_awaits (hnot session)]
      exact htimer
  | stop => exact absurd hrun Bool.false_ne_true

/-- Behind a piece of a task there is a timer at its place only if there was one before, for the
same session. -/
theorem Deed.timer_of_timer {c : Context} {s : State} {t : Task} {p : Piece} {session : Nat}
    {next : Timer} (h : Deed c s t p) (hp : p.task = .timer session next) :
    ∃ phase, t = .timer session phase := by
  cases h with
  | @cycle owner _ cycle _ _ _ ht =>
      cases owner with
      | timer =>
          cases hp
          exact ⟨_, ht⟩
      | start | poll => exact absurd hp nofun
  | undo hphase | release hphase => cases hphase <;> exact absurd hp nofun
  | lieDown | retire | wake | scheduledOver =>
      cases hp
      exact ⟨_, rfl⟩
  | refuse | enter | firstOver | arm | pass => exact absurd hp nofun

/-- A piece of a timer leaves a timer for the same session. -/
theorem Deed.timer_behind {c : Context} {s : State} {t : Task} {p : Piece} {session : Nat}
    {phase : Timer} (h : Deed c s t p) (ht : t = .timer session phase) :
    ∃ next, p.task = .timer session next := by
  cases h with
  | @cycle owner _ cycle next _ _ htask =>
      cases owner with
      | timer =>
          cases htask.symm.trans ht
          exact ⟨_, rfl⟩
      | start | poll => exact absurd (htask.symm.trans ht) nofun
  | lieDown | retire | wake | scheduledOver =>
      cases ht
      exact ⟨_, rfl⟩
  | refuse | enter | firstOver | arm | pass | undo | release => exact absurd ht nofun

namespace System

variable {s t : System}

/-- As long as a poller is not given up and the session runs, its timer stays installed. -/
theorem installed_of_apply {e : Event} {told : List Effect} {r : TimerRef} (hreach : Reachable s)
    (htimer : s.state.timer = some r) (h : s.apply e = some (t, told))
    (halive : t.isAlive = true) (hrun : t.state.running = true) : t.state.timer = some r := by
  obtain ⟨u, hact, rfl⟩ := apply_eq_some_iff.mp h
  rw [isAlive_reap] at halive
  rw [reap_of_alive halive] at hrun ⊢
  rw [state_of_act hact] at hrun ⊢
  cases hsection : s.section? e with
  | none => exact htimer
  | some c =>
      rw [hsection] at hrun
      exact c.timer_apply (sound_of_reachable hreach) htimer hrun

/-- Every timer is one of a session that has begun, and while this session runs and the poller is
not given up, it is the installed one. -/
structure Timekeeping (s : System) : Prop where
  session_le : ∀ {place session phase}, s.task? place = some (.timer session phase) →
    session ≤ s.state.session
  installed : ∀ {place session phase}, s.task? place = some (.timer session phase) →
    s.isAlive = true → s.state.running = true → s.state.session = session →
    s.state.timer = some ⟨place, session⟩

theorem timekeeping_new (hint : String) : (new hint).Timekeeping where
  session_le h := absurd h nofun
  installed h := absurd h nofun

/-- A timer was there before a transition, or the transition installs it. -/
theorem timer_of_fate {e : Event} {told : List Effect} {place session : Nat} {next : Timer}
    (h : s.apply e = some (t, told)) (htask : t.task? place = some (.timer session next)) :
    (∃ phase, s.task? place = some (.timer session phase)) ∨
      (s.state.awaitsTimer session = true ∧
        ∃ call, e = .step call ∧ s.task? call = some (.start (.arming session)) ∧
          place = s.slots.length) := by
  have hfate := fate_of_apply h place
  rw [htask] at hfate
  generalize hbefore : s.task? place = before at hfate ⊢
  generalize hbehind : some (Task.timer session next) = behind at hfate
  cases hfate with
  | kept =>
      rw [← hbehind]
      exact Or.inl ⟨next, rfl⟩
  | called hcall =>
      rcases hcall with ⟨_, rfl⟩ | ⟨_, _, rfl⟩ <;> exact absurd hbehind nofun
  | @spawned call _ he _ hnew hstart hawaits =>
      cases hbehind
      exact Or.inr ⟨hawaits, call, he, hstart, hnew⟩
  | stepped _ _ _ hp =>
      obtain ⟨phase, hphase⟩ :=
        (Task.deed_of_piece hp).timer_of_timer (Option.some.inj hbehind).symm
      exact Or.inl ⟨phase, congrArg some hphase⟩
  | delivered _ hnext =>
      obtain ⟨owner, n, endpoint, rfl, rfl⟩ := Task.answered_of_deliver hnext
      cases owner with
      | timer =>
          cases hbehind
          exact Or.inl ⟨_, rfl⟩
      | start | poll => exact absurd hbehind nofun
  | @dropped before' =>
      rcases before'.dropped_cases with hgone | ⟨_, hguard⟩
      · rw [hgone] at hbehind
        exact absurd hbehind nofun
      · rw [hguard] at hbehind
        exact absurd hbehind nofun

/-- A session that has begun, and runs later, runs all the time until then. -/
theorem running_before {session : Nat} (h : s.state.epoch ≤ t.state.epoch)
    (hle : session ≤ s.state.session) (hrun : t.state.running = true)
    (hsession : t.state.session = session) :
    s.state.running = true ∧ s.state.session = session := by
  rw [State.epoch_of_running hrun, hsession] at h
  cases hbefore : s.state.running with
  | false =>
      rw [State.epoch_of_stopped hbefore] at h
      omega
  | true =>
      rw [State.epoch_of_running hbefore] at h
      exact ⟨rfl, by omega⟩

theorem Timekeeping.apply {e : Event} {told : List Effect} (hs : s.Timekeeping)
    (hreach : Reachable s) (h : s.apply e = some (t, told)) : t.Timekeeping := by
  have hle : s.state.session ≤ t.state.session :=
    State.session_le_of_epoch_le (epoch_le_of_apply h)
  refine ⟨fun {place session phase} htask => ?_,
    fun {place session phase} htask halive hrun hsession => ?_⟩
  · rcases timer_of_fate h htask with ⟨_, hold⟩ | ⟨hawaits, _⟩
    · exact Nat.le_trans (hs.session_le hold) hle
    · exact Nat.le_trans (Nat.le_of_eq (State.awaitsTimer_iff.mp hawaits).2.1.symm) hle
  · rcases timer_of_fate h htask with ⟨_, hold⟩ | ⟨hawaits, call, rfl, hstart, rfl⟩
    · obtain ⟨hran, hsame⟩ :=
        running_before (epoch_le_of_apply h) (hs.session_le hold) hrun hsession
      exact installed_of_apply hreach
        (hs.installed hold (isAlive_of_apply h halive) hran hsame) h halive hrun
    · obtain ⟨p, hdeed, rfl, _⟩ := deed_of_step hstart h
      rw [isAlive_reap] at halive
      rw [reap_of_alive halive]
      cases hdeed with
      | arm => rfl
      | pass hnot => exact absurd hawaits hnot
      | @cycle owner _ _ _ _ _ ht => cases owner <;> exact absurd ht nofun
      | undo hphase | release hphase => exact absurd hphase nofun

theorem timekeeping_of_reachable (hreach : Reachable s) : s.Timekeeping :=
  Reachable.induction (P := Timekeeping) timekeeping_new
    (fun hreach hs happly => hs.apply hreach happly) hreach

/-- The timer of a session that runs, in a poller that is not given up, was not told to end and has
not come to its end. -/
theorem timer_stands (hreach : Reachable s) {place session : Nat} {phase : Timer}
    (htask : s.task? place = some (.timer session phase)) (halive : s.isAlive = true)
    (hrun : s.state.running = true) (hsession : s.state.session = session) :
    phase ≠ .ended ∧ s.slots[place]? = some ⟨.timer session phase, false⟩ := by
  have htimer := (timekeeping_of_reachable hreach).installed htask halive hrun hsession
  have hrole : s.role place = .timer session :=
    (lifecycle_of_reachable hreach).role_timer_iff.mpr htimer
  obtain ⟨⟨task, aborted⟩, hslot, hslotRole⟩ := exists_slot_of_role hrole nofun
  obtain ⟨hlasting, hfree⟩ := Slot.role_eq_timer_iff.mp hslotRole
  cases (task?_eq_some_iff.mpr ⟨_, hslot, rfl⟩).symm.trans htask
  cases hfree
  refine ⟨?_, hslot⟩
  rintro rfl
  exact absurd hlasting nofun

/-- A timer that was not told to end stays a timer for its session. -/
theorem timer_of_apply {e : Event} {told : List Effect} {place session : Nat} {phase : Timer}
    (hslot : s.slots[place]? = some ⟨.timer session phase, false⟩)
    (h : s.apply e = some (t, told)) :
    ∃ next, t.task? place = some (.timer session next) := by
  have hfate := fate_of_apply h place
  rw [task?_eq_some_iff.mpr ⟨_, hslot, rfl⟩] at hfate
  generalize hbehind : t.task? place = behind at hfate
  generalize hbefore : some (Task.timer session phase) = before at hfate
  cases hfate with
  | kept => exact ⟨phase, hbefore.symm⟩
  | called | spawned => exact absurd hbefore nofun
  | @stepped slot p _ _ _ hp =>
      obtain ⟨next, hnext⟩ :=
        (Task.deed_of_piece hp).timer_behind (Option.some.inj hbefore).symm
      exact ⟨next, congrArg some hnext⟩
  | delivered _ hnext =>
      obtain ⟨owner, n, endpoint, rfl, rfl⟩ := Task.answered_of_deliver hnext
      cases owner with
      | timer =>
          cases hbefore
          exact ⟨_, rfl⟩
      | start | poll => exact absurd hbefore nofun
  | dropped he =>
      -- a timer is dropped only after it was told to end
      subst he
      obtain ⟨u, hact, _⟩ := apply_eq_some_iff.mp h
      cases act_eq_some_iff.mp hact with
      | drop hother _ hdroppable =>
          cases hslot.symm.trans hother
          rcases hdroppable with hdroppable | hdroppable <;> exact absurd hdroppable nofun

theorem isAlive_of_run {events : List Event} {effects : List Effect}
    (h : s.run events = some (t, effects)) (halive : t.isAlive = true) : s.isAlive = true := by
  induction events generalizing s effects with
  | nil =>
      cases h
      exact halive
  | cons e rest ih =>
      obtain ⟨u, _, _, happly, hrest, _⟩ := run_cons_eq_some_iff.mp h
      exact isAlive_of_apply happly (ih hrest)

/-- As long as its session runs and the poller is not given up, a timer goes on. -/
theorem timer_lasts {place session : Nat} {phase : Timer} {events : List Event}
    {effects : List Effect} (hreach : Reachable s)
    (htask : s.task? place = some (.timer session phase)) (h : s.run events = some (t, effects))
    (halive : t.isAlive = true) (hrun : t.state.running = true)
    (hsession : t.state.session = session) :
    ∃ next, next ≠ .ended ∧ t.slots[place]? = some ⟨.timer session next, false⟩ := by
  induction events generalizing s phase effects with
  | nil =>
      cases h
      exact ⟨phase, timer_stands hreach htask halive hrun hsession⟩
  | cons e rest ih =>
      obtain ⟨u, _, _, happly, hrest, _⟩ := run_cons_eq_some_iff.mp h
      obtain ⟨hran, hsame⟩ := running_before (epoch_le_of_run h)
        ((timekeeping_of_reachable hreach).session_le htask) hrun hsession
      obtain ⟨_, hslot⟩ := timer_stands hreach htask (isAlive_of_run h halive) hran hsame
      obtain ⟨next, hnext⟩ := timer_of_apply hslot happly
      exact ih (hreach.apply happly) hnext hrest

end System

end AlarmMonitor.Polling
