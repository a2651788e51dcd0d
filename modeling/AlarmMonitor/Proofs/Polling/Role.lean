import AlarmMonitor.Proofs.Polling.Piece

/-!
# The part a task plays in a running period

Most of what a task does leaves the running period alone.  `Role` keeps of a task what matters to
it: the session that it opened, is about to leave, or polls for as a timer.

* `Task.advance_of_piece`: there are seven ways, listed by `Advance`, in which a piece of a task
  can bear on the running period;
* `Task.holdsPoller_of_piece`: a poller that is given up is not held again.
-/

set_option autoImplicit false

namespace AlarmMonitor.Polling

/-- The part that a task plays in a running period. -/
inductive Role where
  /-- A start that opened this session and is still pending: it has gone neither through the
  section that installs the timer nor, dropped, through its guard. -/
  | opening (session : Nat)
  /-- A start behind the section that installs the timer, whose guard has not been released. -/
  | leaving (session : Nat)
  /-- A timer for this session that has not ended. -/
  | timer (session : Nat)
  | other
  deriving DecidableEq, Repr

namespace Task

/-- The role of a task. -/
def role : Task → Role
  | .start (.cycling session _) => .opening session
  | .start (.arming session) => .opening session
  | .start (.cancelled session) => .opening session
  | .start (.leaving session) => .leaving session
  | .timer _ .ended => .other
  | .timer session _ => .timer session
  | _ => .other

/-- Does the task keep the poller from being given up? -/
def holdsPoller (t : Task) : Bool := t.isPendingCall || t.isCyclingTimer

theorem holdsPoller_of_leaving {t : Task} {session : Nat} (h : t.role = .leaving session) :
    t.holdsPoller = true := by
  cases t with
  | start phase => cases phase <;> first | rfl | exact absurd h nofun
  | poll cycle => exact absurd h nofun
  | timer session phase => cases phase <;> exact absurd h nofun
  | gone => exact absurd h nofun

/-- A timer that has not ended is a timer task. -/
theorem eq_timer_of_role {t : Task} {session : Nat} (h : t.role = .timer session) :
    ∃ phase, phase ≠ .ended ∧ t = .timer session phase := by
  cases t with
  | start phase => cases phase <;> exact absurd h nofun
  | poll cycle => exact absurd h nofun
  | timer n phase =>
      cases phase with
      | ended => exact absurd h nofun
      | spawned | checking | sleeping | cycling =>
          cases h
          refine ⟨_, ?_, rfl⟩
          nofun
  | gone => exact absurd h nofun

end Task

/-- What a piece does to the running period, by the role of its task. -/
inductive Advance (c : Context) (s : State) : Role → Piece → Prop where
  /-- Neither the running period nor the role changes. -/
  | quiet {r : Role} {p : Piece} (hc : p.state.control = s.control) (hr : p.task.role = r)
      (hs : p.spawned = []) : Advance c s r p
  /-- A start opens a session of a stopped poller. -/
  | enter {p : Piece} (hstop : s.running = false)
      (hc : p.state.control = (true, s.session + 1, s.timer))
      (hr : p.task.role = .opening (s.session + 1)) (hs : p.spawned = []) : Advance c s .other p
  /-- A start installs a timer. -/
  | arm {n : Nat} {p : Piece} (h : s.awaitsTimer n = true)
      (hc : p.state.control = (s.running, s.session, some ⟨c.next, n⟩))
      (hr : p.task.role = .leaving n) (hs : p.spawned = [.timer n .spawned]) :
      Advance c s (.opening n) p
  /-- A start comes to the section that installs the timer when its session is over. -/
  | pass {n : Nat} {p : Piece} (h : ¬ s.awaitsTimer n = true) (hc : p.state.control = s.control)
      (hr : p.task.role = .leaving n) (hs : p.spawned = []) : Advance c s (.opening n) p
  /-- The guard of a start undoes its session. -/
  | rollBack {r : Role} {n : Nat} {p : Piece} (hold : r = .opening n ∨ r = .leaving n)
      (h : s.awaitsTimer n = true) (hc : p.state.control = (false, s.session, s.timer))
      (hr : p.task.role = .other) (hs : p.spawned = []) : Advance c s r p
  /-- The guard of a start has nothing to undo. -/
  | finish {r : Role} {n : Nat} {p : Piece} (hold : r = .opening n ∨ r = .leaving n)
      (h : ¬ s.awaitsTimer n = true) (hc : p.state.control = s.control)
      (hr : p.task.role = .other) (hs : p.spawned = []) : Advance c s r p
  /-- A timer ends: nobody holds the poller, or the session is over. -/
  | retire {n : Nat} {p : Piece} (h : c.alive = false ∨ s.running = false ∨ s.session ≠ n)
      (hc : p.state.control = s.control) (hr : p.task.role = .other) (hs : p.spawned = []) :
      Advance c s (.timer n) p

/-- A cycle leaves the running period alone. -/
theorem Cycle.control_of_piece {c : Context} {s : State} {wrap : Cycle → Task} {cycle : Cycle}
    {p : Piece} (h : cycle.piece c s wrap = some p) :
    p.state.control = s.control ∧ p.spawned = [] ∧ ∃ next, p.task = wrap next := by
  obtain ⟨hstate, hspawned⟩ := state_of_piece h
  have htask : ∃ next, p.task = wrap next := by
    obtain ⟨⟨s', next, effects⟩, _, rfl⟩ := Option.map_eq_some_iff.mp h
    exact ⟨next, rfl⟩
  refine ⟨?_, hspawned, htask⟩
  rw [hstate]
  cases cycle with
  | ready => exact State.control_openCycle s c.now
  | answered session endpoint reply =>
      cases reply with
      | failure message => rfl
      | body text => exact State.control_closeCycle s session c.hint text
  | waiting | showing | ended => rfl

theorem Start.advance_of_piece {c : Context} {s : State} {phase : Start} {p : Piece}
    (h : phase.piece c s = some p) : Advance c s (Task.start phase).role p := by
  cases phase with
  | entering options =>
      simp only [piece] at h
      rcases Bool.eq_false_or_eq_true s.running with hrun | hrun
      · rw [State.enter_of_running hrun] at h
        cases Option.some.inj h
        exact .quiet rfl rfl rfl
      · rw [State.enter_of_stopped hrun] at h
        cases Option.some.inj h
        exact .enter hrun rfl rfl rfl
  | cycling session cycle =>
      cases cycle with
      | ended outcome =>
          cases Option.some.inj h
          exact .quiet rfl rfl rfl
      | ready | waiting | answered | showing =>
          simp only [piece] at h
          obtain ⟨hc, hs, next, ht⟩ := Cycle.control_of_piece h
          exact .quiet hc (by rw [ht]; rfl) hs
  | arming session =>
      by_cases hawait : s.awaitsTimer session = true
      · simp only [piece, State.arm_of_awaits hawait, if_true] at h
        cases Option.some.inj h
        exact .arm hawait rfl rfl rfl
      · simp only [piece, State.arm_of_not_awaits hawait, Bool.false_eq_true, if_false] at h
        cases Option.some.inj h
        exact .pass hawait rfl rfl rfl
  | leaving session =>
      by_cases hawait : s.awaitsTimer session = true
      · simp only [piece, State.rollBack_of_awaits hawait] at h
        cases Option.some.inj h
        exact .rollBack (Or.inr rfl) hawait rfl rfl rfl
      · simp only [piece, State.rollBack_of_not_awaits hawait] at h
        cases Option.some.inj h
        exact .finish (Or.inr rfl) hawait rfl rfl rfl
  | cancelled session =>
      by_cases hawait : s.awaitsTimer session = true
      · simp only [piece, State.rollBack_of_awaits hawait] at h
        cases Option.some.inj h
        exact .rollBack (Or.inl rfl) hawait rfl rfl rfl
      · simp only [piece, State.rollBack_of_not_awaits hawait] at h
        cases Option.some.inj h
        exact .finish (Or.inl rfl) hawait rfl rfl rfl
  | returned => exact absurd h (Option.some_ne_none p).symm

theorem Timer.advance_of_piece {c : Context} {s : State} {session : Nat} {phase : Timer} {p : Piece}
    (h : phase.piece c s session = some p) : Advance c s (Task.timer session phase).role p := by
  have hlook : Timer.checking.piece c s session = some p → Advance c s (.timer session) p := by
    intro h
    simp only [piece] at h
    split at h
    · split at h
      · cases Option.some.inj h
        exact .quiet rfl rfl rfl
      · rename_i hnone
        cases Option.some.inj h
        exact .retire (Or.inr (State.timerInterval_eq_none_iff.mp hnone)) rfl rfl rfl
    · rename_i hdead
      cases Option.some.inj h
      exact .retire (Or.inl (Bool.eq_false_iff.mpr hdead)) rfl rfl rfl
  cases phase with
  | spawned => exact hlook h
  | checking => exact hlook h
  | sleeping wakeAt =>
      simp only [piece] at h
      split at h
      · split at h
        · cases Option.some.inj h
          exact .quiet rfl rfl rfl
        · rename_i hdead
          cases Option.some.inj h
          exact .retire (Or.inl (Bool.eq_false_iff.mpr hdead)) rfl rfl rfl
      · exact absurd h (Option.some_ne_none p).symm
  | cycling cycle =>
      cases cycle with
      | ended outcome =>
          cases Option.some.inj h
          exact .quiet rfl rfl rfl
      | ready | waiting | answered | showing =>
          simp only [piece] at h
          obtain ⟨hc, hs, next, ht⟩ := Cycle.control_of_piece h
          exact .quiet hc (by rw [ht]; rfl) hs
  | ended => exact absurd h (Option.some_ne_none p).symm

namespace Task

/-- A piece of a task bears on the running period in one of the seven ways. -/
theorem advance_of_piece {c : Context} {s : State} {t : Task} {p : Piece}
    (h : t.piece c s = some p) : Advance c s t.role p := by
  cases t with
  | start phase => exact Start.advance_of_piece h
  | poll cycle =>
      obtain ⟨hc, hs, next, ht⟩ := Cycle.control_of_piece h
      exact .quiet hc (by rw [ht]; rfl) hs
  | timer session phase => exact Timer.advance_of_piece h
  | gone => exact absurd h (Option.some_ne_none p).symm

/-- A piece creates no task but the timer of a session. -/
theorem spawned_of_piece {c : Context} {s : State} {t : Task} {p : Piece}
    (h : t.piece c s = some p) : p.spawned = [] ∨ ∃ n, p.spawned = [.timer n .spawned] := by
  have hadvance := advance_of_piece h
  generalize t.role = r at hadvance
  cases hadvance with
  | arm _ _ _ hs => exact Or.inr ⟨_, hs⟩
  | quiet _ _ hs | enter _ _ _ hs | pass _ _ _ hs | rollBack _ _ _ _ hs | finish _ _ _ _ hs
  | retire _ _ _ hs => exact Or.inl hs

/-- A task that does not hold a poller which is given up does not begin to hold it, and leaves no
task behind. -/
theorem holdsPoller_of_piece {c : Context} {s : State} {t : Task} {p : Piece}
    (h : t.piece c s = some p) (hdead : c.alive = false) (hfree : t.holdsPoller = false) :
    p.task.holdsPoller = false ∧ p.spawned = [] := by
  cases t with
  | start phase =>
      cases phase with
      | returned => exact absurd h (Option.some_ne_none p).symm
      | entering | cycling | arming | leaving | cancelled => exact absurd hfree.symm Bool.false_ne_true
  | poll cycle =>
      cases cycle with
      | ended outcome => exact absurd h (Option.some_ne_none p).symm
      | ready | waiting | answered | showing => exact absurd hfree.symm Bool.false_ne_true
  | timer session phase =>
      cases phase with
      | spawned | checking =>
          simp only [piece, Timer.piece, hdead, Bool.false_eq_true, if_false,
            Option.some.injEq] at h
          exact h ▸ ⟨rfl, rfl⟩
      | sleeping wakeAt =>
          simp only [piece, Timer.piece, hdead, Bool.false_eq_true, if_false] at h
          split at h
          · exact (Option.some.inj h) ▸ ⟨rfl, rfl⟩
          · exact absurd h (Option.some_ne_none p).symm
      | cycling cycle => exact absurd hfree.symm Bool.false_ne_true
      | ended => exact absurd h (Option.some_ne_none p).symm
  | gone => exact absurd h (Option.some_ne_none p).symm

end Task

end AlarmMonitor.Polling
