import AlarmMonitor.Polling.System
import AlarmMonitor.Proofs.Polling.Cycle

/-!
# One piece of a task

A piece of a task depends on the shared state and on little else: `Context` is what it sees of its
poller beside the state, and `Piece` is what it leaves behind.

* `System.stepTask_eq`: a step of the system is the piece of its task;
* `Task.state_of_piece`: a piece changes the state by at most one critical section.
-/

set_option autoImplicit false

namespace AlarmMonitor.Polling

/-- What a task sees of its poller beside the shared state. -/
structure Context where
  hint : String
  now : Nat
  /-- The place of the task itself. -/
  place : Nat
  /-- The place of the next task that is created. -/
  next : Nat
  /-- Is the poller still there? -/
  alive : Bool
  deriving DecidableEq, Repr

/-- What one piece of a task leaves behind. -/
structure Piece where
  state : State
  task : Task
  /-- The tasks that were created. -/
  spawned : List Task
  effects : List Effect

/-! ## Pieces of the three kinds of tasks -/

/-- The next piece of a cycle that belongs to a task; `wrap` says to which kind of task. -/
def Cycle.piece (c : Context) (s : State) (wrap : Cycle → Task) (cycle : Cycle) : Option Piece :=
  (cycle.step c.hint c.now c.place s).map fun (s, cycle, effects) => ⟨s, wrap cycle, [], effects⟩

/-- The next piece of a call of `start`. -/
def Start.piece (c : Context) (s : State) : Start → Option Piece
  | .entering options =>
    match s.enter options with
    | none => some ⟨s, .start .returned, [], []⟩
    | some (s, ns) => some ⟨s, .start (.cycling s.session .ready), [], System.notes ns⟩
  | .cycling session (.ended outcome) =>
    some ⟨s, .start (.arming session), [], [.note (.firstCycle outcome)]⟩
  | .cycling session cycle => cycle.piece c s fun cycle => .start (.cycling session cycle)
  | .arming session =>
    let (s, armed) := s.arm session c.next
    if armed then
      some ⟨s, .start (.leaving session), [.timer session .spawned], [.spawned c.next]⟩
    else some ⟨s, .start (.leaving session), [], []⟩
  | .leaving session =>
    let (s, undone) := s.rollBack session
    some ⟨s, .start .returned, [], if undone then [.note .startCancelled] else []⟩
  | .cancelled session =>
    let (s, undone) := s.rollBack session
    some ⟨s, .gone, [], if undone then [.note .startCancelled] else []⟩
  | .returned => none

/-- The next piece of a timer. -/
def Timer.piece (c : Context) (s : State) (session : Nat) : Timer → Option Piece
  | .spawned | .checking =>
    if c.alive then
      match s.timerInterval session with
      | some interval => some ⟨s, .timer session (.sleeping (c.now + interval.nanos)), [], []⟩
      | none => some ⟨s, .timer session .ended, [], []⟩
    else some ⟨s, .timer session .ended, [], []⟩
  | .sleeping wakeAt =>
    if wakeAt ≤ c.now then
      if c.alive then some ⟨s, .timer session (.cycling .ready), [], []⟩
      else some ⟨s, .timer session .ended, [], []⟩
    else none
  | .cycling (.ended outcome) =>
    some ⟨s, .timer session .checking, [], [.note (.scheduledCycle outcome)]⟩
  | .cycling cycle => cycle.piece c s fun cycle => .timer session (.cycling cycle)
  | .ended => none

namespace Task

/-- The next piece of a task. -/
def piece (c : Context) (s : State) : Task → Option Piece
  | .start phase => phase.piece c s
  | .poll cycle => cycle.piece c s .poll
  | .timer session phase => phase.piece c s session
  | .gone => none

end Task

namespace System

/-- What a task of the system sees. -/
def context (s : System) (id : Nat) : Context := ⟨s.hint, s.now, id, s.slots.length, s.isAlive⟩

/-- The system behind a piece of the task at a place. -/
def leave (s : System) (id : Nat) (p : Piece) : System :=
  { s with
    state := p.state
    slots := (s.slots.modify id fun slot => { slot with task := p.task }) ++
      p.spawned.map fun t => ⟨t, false⟩ }

theorem leave_of_spawned_nil (s : System) (id : Nat) (state : State) (t : Task)
    (effects : List Effect) :
    s.leave id ⟨state, t, [], effects⟩ = { s with state }.setTask id t := by
  simp only [leave, setTask, List.map_nil, List.append_nil]

/-- A piece of a cycle is a step of the cycle. -/
theorem map_cycle_step (s : System) (id : Nat) (wrap : Cycle → Task) (cycle : Cycle) :
    (cycle.step s.hint s.now id s.state).map (fun (state, cycle, effects) =>
        ({ s with state }.setTask id (wrap cycle), effects)) =
      (cycle.piece (s.context id) s.state wrap).map fun p => (s.leave id p, p.effects) := by
  unfold Cycle.piece
  rw [Option.map_map]
  refine congrArg (fun f => Option.map f _) (funext fun r => ?_)
  exact Prod.ext (leave_of_spawned_nil s id r.1 (wrap r.2.1) r.2.2).symm rfl

theorem stepStart_eq (s : System) (id : Nat) (phase : Start) :
    s.stepStart id phase =
      (phase.piece (s.context id) s.state).map fun p => (s.leave id p, p.effects) := by
  cases phase with
  | entering options =>
      simp only [stepStart, Start.piece]
      cases s.state.enter options with
      | none => simp only [Option.map_some, leave_of_spawned_nil]
      | some r => simp only [Option.map_some, leave_of_spawned_nil]
  | cycling session cycle =>
      cases cycle with
      | ended outcome => simp only [stepStart, Start.piece, Option.map_some, leave_of_spawned_nil]
      | ready | waiting | answered | showing =>
          simp only [stepStart, Start.piece]
          exact map_cycle_step s id (fun cycle => .start (.cycling session cycle)) _
  | arming session =>
      by_cases h : s.state.awaitsTimer session = true
      · simp only [stepStart, Start.piece, context, State.arm_of_awaits h, if_true,
          Option.map_some, leave, addTask, setTask, List.map_cons, List.map_nil]
      · simp only [stepStart, Start.piece, context, State.arm_of_not_awaits h,
          Bool.false_eq_true, if_false, Option.map_some, leave_of_spawned_nil]
  | leaving session => simp only [stepStart, Start.piece, Option.map_some, leave_of_spawned_nil]
  | cancelled session => simp only [stepStart, Start.piece, Option.map_some, leave_of_spawned_nil]
  | returned => rfl

theorem stepTimer_eq (s : System) (id session : Nat) (phase : Timer) :
    s.stepTimer id session phase =
      (phase.piece (s.context id) s.state session).map fun p => (s.leave id p, p.effects) := by
  have hlook : s.stepTimer id session .checking =
      (Timer.checking.piece (s.context id) s.state session).map fun p =>
        (s.leave id p, p.effects) := by
    by_cases halive : s.isAlive = true
    · simp only [stepTimer, Timer.piece, context, halive, if_true]
      cases s.state.timerInterval session with
      | none => simp only [Option.map_some, leave_of_spawned_nil]
      | some interval => simp only [Option.map_some, leave_of_spawned_nil]
    · simp only [stepTimer, Timer.piece, context, halive, Bool.false_eq_true, if_false,
        Option.map_some, leave_of_spawned_nil]
  cases phase with
  | spawned => exact hlook
  | checking => exact hlook
  | sleeping wakeAt =>
      by_cases hawake : wakeAt ≤ s.now
      · by_cases halive : s.isAlive = true
        · simp only [stepTimer, Timer.piece, context, hawake, halive, if_true, Option.map_some,
            leave_of_spawned_nil]
        · simp only [stepTimer, Timer.piece, context, hawake, halive, Bool.false_eq_true,
            if_true, if_false, Option.map_some, leave_of_spawned_nil]
      · simp only [stepTimer, Timer.piece, context, hawake, if_false, Option.map_none]
  | cycling cycle =>
      cases cycle with
      | ended outcome => simp only [stepTimer, Timer.piece, Option.map_some, leave_of_spawned_nil]
      | ready | waiting | answered | showing =>
          simp only [stepTimer, Timer.piece]
          exact map_cycle_step s id (fun cycle => .timer session (.cycling cycle)) _
  | ended => rfl

/-- A step of the system is the next piece of its task. -/
theorem stepTask_eq (s : System) (id : Nat) (t : Task) :
    s.stepTask id t =
      (t.piece (s.context id) s.state).map fun p => (s.leave id p, p.effects) := by
  cases t with
  | start phase => exact stepStart_eq s id phase
  | poll cycle => exact map_cycle_step s id .poll cycle
  | timer session phase => exact stepTimer_eq s id session phase
  | gone => rfl

end System

/-! ## The critical section of a piece -/

/-- The state behind a critical section, if there is one. -/
def State.through (s : State) : Option Section → State
  | some c => c.apply s
  | none => s

/-- The critical section in the next piece of a cycle. -/
def Cycle.section? (c : Context) : Cycle → Option Section
  | .ready => some (.openCycle c.now)
  | .answered session _ (.body text) => some (.closeCycle session c.hint text)
  | _ => none

/-- The critical section in the next piece of a call of `start`. -/
def Start.section? (c : Context) : Start → Option Section
  | .entering options => some (.enter options)
  | .cycling _ cycle => cycle.section? c
  | .arming session => some (.arm session c.next)
  | .leaving session | .cancelled session => some (.rollBack session)
  | .returned => none

/-- The critical section in the next piece of a task.  Where a timer looks for its interval it
writes nothing. -/
def Task.section? (c : Context) : Task → Option Section
  | .start phase => phase.section? c
  | .poll cycle => cycle.section? c
  | .timer _ (.cycling cycle) => cycle.section? c
  | .timer .. => none
  | .gone => none

/-- A piece of a cycle goes through its critical section and creates no task. -/
theorem Cycle.state_of_piece {c : Context} {s : State} {wrap : Cycle → Task} {cycle : Cycle}
    {p : Piece} (h : cycle.piece c s wrap = some p) :
    p.state = s.through (cycle.section? c) ∧ p.spawned = [] := by
  obtain ⟨r, hstep, rfl⟩ := Option.map_eq_some_iff.mp h
  refine ⟨?_, rfl⟩
  cases step_eq_some_iff.mp hstep with
  | notRunning hstop =>
      simp only [section?, State.through, Section.apply, State.openCycle_of_stopped hstop]
  | debounced hrun hlast hsoon =>
      simp only [section?, State.through, Section.apply,
        State.openCycle_of_soon hrun hlast hsoon]
  | request hrun hlate =>
      simp only [section?, State.through, Section.apply, State.openCycle_of_late hrun hlate]
  | discarded hstale => exact (Section.apply_closeCycle_of_stale hstale _ _).symm
  | fetchFailed | taken | shown | processed => rfl

theorem Start.state_of_piece {c : Context} {s : State} {phase : Start} {p : Piece}
    (h : phase.piece c s = some p) : p.state = s.through (phase.section? c) := by
  cases phase with
  | entering options =>
      simp only [section?, State.through, Section.apply]
      simp only [piece] at h
      cases henter : s.enter options with
      | none =>
          rw [henter] at h
          exact (Option.some.inj h) ▸ rfl
      | some r =>
          rw [henter] at h
          exact (Option.some.inj h) ▸ rfl
  | cycling session cycle =>
      cases cycle with
      | ended outcome =>
          simp only [piece, Option.some.injEq] at h
          exact h ▸ rfl
      | ready | waiting | answered | showing =>
          simp only [piece] at h
          exact (Cycle.state_of_piece h).1
  | arming session =>
      simp only [section?, State.through, Section.apply]
      simp only [piece] at h
      split at h <;> exact (Option.some.inj h) ▸ rfl
  | leaving session =>
      simp only [piece, Option.some.injEq] at h
      exact h ▸ rfl
  | cancelled session =>
      simp only [piece, Option.some.injEq] at h
      exact h ▸ rfl
  | returned => exact absurd h (Option.some_ne_none p).symm

/-- Where a timer is not inside a cycle, its pieces leave the state alone. -/
theorem Timer.state_of_piece {c : Context} {s : State} {session : Nat} {phase : Timer} {p : Piece}
    (h : phase.piece c s session = some p) :
    p.state = s.through (Task.section? c (.timer session phase)) ∧ p.spawned = [] := by
  have hlook : Timer.checking.piece c s session = some p → p.state = s ∧ p.spawned = [] := by
    intro h
    simp only [piece] at h
    split at h
    · split at h <;> exact (Option.some.inj h) ▸ ⟨rfl, rfl⟩
    · exact (Option.some.inj h) ▸ ⟨rfl, rfl⟩
  cases phase with
  | spawned => exact hlook h
  | checking => exact hlook h
  | sleeping wakeAt =>
      simp only [piece] at h
      split at h
      · split at h <;> exact (Option.some.inj h) ▸ ⟨rfl, rfl⟩
      · exact absurd h (Option.some_ne_none p).symm
  | cycling cycle =>
      cases cycle with
      | ended outcome =>
          simp only [piece, Option.some.injEq] at h
          exact h ▸ ⟨rfl, rfl⟩
      | ready | waiting | answered | showing =>
          simp only [piece] at h
          exact Cycle.state_of_piece h
  | ended => exact absurd h (Option.some_ne_none p).symm

/-- A piece of a task changes the state by its critical section only. -/
theorem Task.state_of_piece {c : Context} {s : State} {t : Task} {p : Piece}
    (h : t.piece c s = some p) : p.state = s.through (t.section? c) := by
  cases t with
  | start phase => exact Start.state_of_piece h
  | poll cycle => exact (Cycle.state_of_piece h).1
  | timer session phase => exact (Timer.state_of_piece h).1
  | gone => exact absurd h (Option.some_ne_none p).symm

end AlarmMonitor.Polling
