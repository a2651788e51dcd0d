import AlarmMonitor.Proofs.Polling.Piece

/-!
# Sessions under other numbers

Session numbers are only compared with each other and counted up.  So a poller whose sessions carry
numbers that are all higher by the same amount does the same: `shift` raises the numbers in a
state, a task and a piece, and every critical section and every piece commutes with it.

* `State.enter_shift`, `State.closeCycle_shift`, `State.arm_shift`, `State.rollBack_shift`,
  `State.timerInterval_shift`: the sections that work with session numbers;
* `Cycle.step_shift`, `Task.piece_shift`: the pieces of cycles and of tasks.
-/

set_option autoImplicit false

namespace AlarmMonitor.Polling

/-! ## Raising the numbers -/

/-- The timer of a session whose number is higher by `k`. -/
def TimerRef.shift (k : Nat) (t : TimerRef) : TimerRef := { t with session := t.session + k }

namespace State

/-- The state with all session numbers raised by `k`. -/
def shift (k : Nat) (s : State) : State :=
  { s with session := s.session + k, timer := s.timer.map (·.shift k) }

/-- The decision of an opening section with the session number raised by `k`. -/
def Opening.shift (k : Nat) : Opening → Opening
  | .request session endpoint => .request (session + k) endpoint
  | o => o

end State

/-- The cycle with the session of its request raised by `k`. -/
def Cycle.shift (k : Nat) : Cycle → Cycle
  | .waiting session endpoint => .waiting (session + k) endpoint
  | .answered session endpoint reply => .answered (session + k) endpoint reply
  | c => c

def Start.shift (k : Nat) : Start → Start
  | .cycling session c => .cycling (session + k) (c.shift k)
  | .arming session => .arming (session + k)
  | .leaving session => .leaving (session + k)
  | .cancelled session => .cancelled (session + k)
  | phase => phase

def Timer.shift (k : Nat) : Timer → Timer
  | .cycling c => .cycling (c.shift k)
  | phase => phase

/-- The task with all session numbers raised by `k`. -/
def Task.shift (k : Nat) : Task → Task
  | .start phase => .start (phase.shift k)
  | .poll c => .poll (c.shift k)
  | .timer session phase => .timer (session + k) (phase.shift k)
  | .gone => .gone

def Slot.shift (k : Nat) (slot : Slot) : Slot := { slot with task := slot.task.shift k }

def Piece.shift (k : Nat) (p : Piece) : Piece :=
  { p with state := p.state.shift k, task := p.task.shift k
           spawned := p.spawned.map (·.shift k) }

/-! ## What does not depend on the numbers -/

namespace Cycle

theorem isWaiting_shift (k : Nat) (c : Cycle) : (c.shift k).isWaiting = c.isWaiting := by
  cases c <;> rfl

theorem deliver_shift (k : Nat) (reply : Backend.Reply) (c : Cycle) :
    (c.shift k).deliver reply = (c.deliver reply).map (·.shift k) := by
  cases c <;> rfl

end Cycle

namespace Task

theorem isSuspended_shift (k : Nat) (t : Task) : (t.shift k).isSuspended = t.isSuspended := by
  cases t with
  | start phase =>
      cases phase with
      | cycling session c => exact c.isWaiting_shift k
      | entering | arming | leaving | cancelled | returned => rfl
  | poll c => cases c <;> rfl
  | timer session phase =>
      cases phase with
      | cycling c => exact c.isWaiting_shift k
      | spawned | checking | sleeping | ended => rfl
  | gone => rfl

theorem isPendingCall_shift (k : Nat) (t : Task) :
    (t.shift k).isPendingCall = t.isPendingCall := by
  cases t with
  | start phase => cases phase <;> rfl
  | poll c => cases c <;> rfl
  | timer session phase => cases phase <;> rfl
  | gone => rfl

theorem isTimer_shift (k : Nat) (t : Task) : (t.shift k).isTimer = t.isTimer := by
  cases t <;> rfl

theorem dropped_shift (k : Nat) (t : Task) : (t.shift k).dropped = t.dropped.shift k := by
  cases t with
  | start phase => cases phase <;> rfl
  | poll | timer | gone => rfl

theorem deliver_shift (k : Nat) (reply : Backend.Reply) (t : Task) :
    (t.shift k).deliver reply = (t.deliver reply).map (·.shift k) := by
  cases t with
  | start phase =>
      cases phase with
      | cycling session c =>
          simp only [shift, Start.shift, deliver, Cycle.deliver_shift, Option.map_map]
          rfl
      | entering | arming | leaving | cancelled | returned => rfl
  | poll c =>
      simp only [shift, deliver, Cycle.deliver_shift, Option.map_map]
      rfl
  | timer session phase =>
      cases phase with
      | cycling c =>
          simp only [shift, Timer.shift, deliver, Cycle.deliver_shift, Option.map_map]
          rfl
      | spawned | checking | sleeping | ended => rfl
  | gone => rfl

end Task

/-! ## Critical sections -/

namespace State

theorem configure_shift (k : Nat) (s : State) (o : Options) :
    (s.shift k).configure o = ((s.configure o).1.shift k, (s.configure o).2) := rfl

theorem stop_shift (k : Nat) (s : State) : (s.shift k).stop = s.stop.shift k := rfl

theorem clearHistory_shift (k : Nat) (s : State) :
    (s.shift k).clearHistory = s.clearHistory.shift k := rfl

/-- Counting on from a raised number raises the next one. -/
theorem enter_shift (k : Nat) (s : State) (o : Options) :
    (s.shift k).enter o = (s.enter o).map fun (u, notes) => (u.shift k, notes) := by
  rcases Bool.eq_false_or_eq_true s.running with hrun | hrun
  · have hrun' : (s.shift k).running = true := hrun
    rw [enter_of_running hrun, enter_of_running hrun']
    rfl
  · have hrun' : (s.shift k).running = false := hrun
    have hnext : s.session + k + 1 = s.session + 1 + k := Nat.add_right_comm _ _ _
    rw [enter_of_stopped hrun, enter_of_stopped hrun', Option.map_some]
    simp only [shift, hnext]

theorem openCycle_shift (k : Nat) (s : State) (now : Nat) :
    (s.shift k).openCycle now = ((s.openCycle now).1.shift k, (s.openCycle now).2.shift k) := by
  obtain ⟨config, running, session, seen, lastCycle, timer⟩ := s
  cases running with
  | false => rfl
  | true =>
      cases lastCycle with
      | none => rfl
      | some last =>
          by_cases hsoon : Duration.between last now < debounceWindow
          · simp only [openCycle, shift, if_pos hsoon]
            rfl
          · simp only [openCycle, shift, if_neg hsoon]
            rfl

theorem closeCycle_shift (k : Nat) (s : State) (session : Nat) (hint body : String) :
    (s.shift k).closeCycle (session + k) hint body =
      ((s.closeCycle session hint body).1.shift k, (s.closeCycle session hint body).2) := by
  rcases s.stale_or_current session with hstale | ⟨hrun, hsession⟩
  · have hstale' : (s.shift k).running = false ∨ (s.shift k).session ≠ session + k :=
      hstale.imp (fun h => h) fun h heq => h (Nat.add_right_cancel heq)
    rw [closeCycle_of_stale hstale, closeCycle_of_stale hstale']
  · have hrun' : (s.shift k).running = true := hrun
    have hsession' : (s.shift k).session = session + k := congrArg (· + k) hsession
    rw [closeCycle_of_current hrun hsession, closeCycle_of_current hrun' hsession']
    rfl

theorem awaitsTimer_shift (k : Nat) (s : State) (session : Nat) :
    (s.shift k).awaitsTimer (session + k) = s.awaitsTimer session := by
  rw [Bool.eq_iff_iff, awaitsTimer_iff, awaitsTimer_iff]
  simp only [shift, Nat.add_right_cancel_iff, Option.map_eq_none_iff]

theorem arm_shift (k : Nat) (s : State) (session task : Nat) :
    (s.shift k).arm (session + k) task =
      ((s.arm session task).1.shift k, (s.arm session task).2) := by
  by_cases h : s.awaitsTimer session = true
  · have h' : (s.shift k).awaitsTimer (session + k) = true := (awaitsTimer_shift k s _).trans h
    rw [arm_of_awaits h, arm_of_awaits h']
    rfl
  · have h' : ¬ (s.shift k).awaitsTimer (session + k) = true := by
      rw [awaitsTimer_shift]
      exact h
    rw [arm_of_not_awaits h, arm_of_not_awaits h']

theorem rollBack_shift (k : Nat) (s : State) (session : Nat) :
    (s.shift k).rollBack (session + k) =
      ((s.rollBack session).1.shift k, (s.rollBack session).2) := by
  by_cases h : s.awaitsTimer session = true
  · have h' : (s.shift k).awaitsTimer (session + k) = true := (awaitsTimer_shift k s _).trans h
    rw [rollBack_of_awaits h, rollBack_of_awaits h']
    rfl
  · have h' : ¬ (s.shift k).awaitsTimer (session + k) = true := by
      rw [awaitsTimer_shift]
      exact h
    rw [rollBack_of_not_awaits h, rollBack_of_not_awaits h']

theorem timerInterval_shift (k : Nat) (s : State) (session : Nat) :
    (s.shift k).timerInterval (session + k) = s.timerInterval session := by
  have hsession : (s.session + k != session + k) = (s.session != session) := by
    rw [Bool.eq_iff_iff, bne_iff_ne, bne_iff_ne, ne_eq, ne_eq, Nat.add_right_cancel_iff]
  simp only [timerInterval, shift, hsession]

end State

/-! ## Pieces -/

/-- A step of a cycle does the same under raised numbers. -/
theorem Cycle.step_shift (k : Nat) (hint : String) (now task : Nat) (s : State) (cycle : Cycle) :
    (cycle.shift k).step hint now task (s.shift k) =
      (cycle.step hint now task s).map fun (u, next, effects) =>
        (u.shift k, next.shift k, effects) := by
  cases cycle with
  | ready =>
      simp only [shift, step, State.openCycle_shift]
      rcases s.openCycle_cases now with ⟨_, ho⟩ | ⟨_, _, _, _, ho⟩ | ⟨_, _, ho⟩ <;> rw [ho] <;> rfl
  | waiting | ended => rfl
  | answered session endpoint reply =>
      cases reply with
      | failure message => rfl
      | body text =>
          simp only [shift, step, State.closeCycle_shift]
          rcases s.stale_or_current session with hstale | ⟨hrun, hsession⟩
          · rw [State.closeCycle_of_stale hstale]
            rfl
          · rw [State.closeCycle_of_current hrun hsession]
            rfl
  | showing fetched surfaced rest => cases rest <;> rfl

theorem Cycle.piece_shift (k : Nat) (c : Context) (s : State) (wrap raised : Cycle → Task)
    (hwrap : ∀ cycle, raised (cycle.shift k) = (wrap cycle).shift k) (cycle : Cycle) :
    (cycle.shift k).piece c (s.shift k) raised = (cycle.piece c s wrap).map (·.shift k) := by
  unfold piece
  rw [step_shift, Option.map_map, Option.map_map]
  refine congrArg (fun f => Option.map f _) (funext fun r => ?_)
  simp only [Function.comp_apply, Piece.shift, hwrap, List.map_nil]

theorem Start.piece_shift (k : Nat) (c : Context) (s : State) (phase : Start) :
    (phase.shift k).piece c (s.shift k) = (phase.piece c s).map (·.shift k) := by
  cases phase with
  | entering options =>
      simp only [shift, piece, State.enter_shift]
      cases s.enter options with
      | none => rfl
      | some r => rfl
  | cycling session cycle =>
      have hcycle := Cycle.piece_shift k c s (fun cycle => .start (.cycling session cycle))
        (fun cycle => .start (.cycling (session + k) cycle)) (fun _ => rfl)
      cases cycle with
      | ended outcome => rfl
      | ready => exact hcycle .ready
      | waiting n endpoint => exact hcycle (.waiting n endpoint)
      | answered n endpoint reply => exact hcycle (.answered n endpoint reply)
      | showing fetched surfaced rest => exact hcycle (.showing fetched surfaced rest)
  | arming session =>
      simp only [shift, piece, State.arm_shift]
      split <;> rfl
  | leaving session =>
      simp only [shift, piece, State.rollBack_shift]
      rfl
  | cancelled session =>
      simp only [shift, piece, State.rollBack_shift]
      rfl
  | returned => rfl

theorem Timer.piece_shift (k : Nat) (c : Context) (s : State) (session : Nat) (phase : Timer) :
    (phase.shift k).piece c (s.shift k) (session + k) =
      (phase.piece c s session).map (·.shift k) := by
  have hlook : Timer.checking.piece c (s.shift k) (session + k) =
      (Timer.checking.piece c s session).map (·.shift k) := by
    simp only [piece, State.timerInterval_shift]
    split
    · cases s.timerInterval session with
      | none => rfl
      | some interval => rfl
    · rfl
  cases phase with
  | spawned => exact hlook
  | checking => exact hlook
  | sleeping wakeAt =>
      simp only [shift, piece]
      split
      · split <;> rfl
      · rfl
  | cycling cycle =>
      have hcycle := Cycle.piece_shift k c s (fun cycle => .timer session (.cycling cycle))
        (fun cycle => .timer (session + k) (.cycling cycle)) (fun _ => rfl)
      cases cycle with
      | ended outcome => rfl
      | ready => exact hcycle .ready
      | waiting n endpoint => exact hcycle (.waiting n endpoint)
      | answered n endpoint reply => exact hcycle (.answered n endpoint reply)
      | showing fetched surfaced rest => exact hcycle (.showing fetched surfaced rest)
  | ended => rfl

/-- A piece of a task does the same under raised numbers. -/
theorem Task.piece_shift (k : Nat) (c : Context) (s : State) (t : Task) :
    (t.shift k).piece c (s.shift k) = (t.piece c s).map (·.shift k) := by
  cases t with
  | start phase => exact Start.piece_shift k c s phase
  | poll cycle => exact Cycle.piece_shift k c s .poll .poll (fun _ => rfl) cycle
  | timer session phase => exact Timer.piece_shift k c s session phase
  | gone => rfl

end AlarmMonitor.Polling
