import AlarmMonitor.Proofs.Polling.Call
import AlarmMonitor.Proofs.Polling.Deed
import AlarmMonitor.Proofs.Polling.Record

/-!
# Stretches between two waits

Where one thread runs all activities, nothing interferes with a task between two of its waits,
except through the sink, which may call back.  A start that opens a session, and a timer that wakes
up, come to their request within such a stretch.

* `System.unbroken`: no task takes a step, and nobody stops the poller, in the middle of a stretch
  of another task;
* `Task.Poised`: a task that is about to open the cycle of a session finds the session running;
* `System.poised_of_run`: so do all tasks, at every moment of an unbroken run.
-/

set_option autoImplicit false

namespace AlarmMonitor.Polling

namespace Task

/-- Does the task hand texts to the sink?  The sink may call back into the poller there. -/
def isShowing (t : Task) : Bool :=
  match t.cycle? with
  | some (.showing ..) => true
  | _ => false

/-- Is the task in the middle of a stretch between two waits, and not in the sink? -/
def isBusy (t : Task) : Bool := !(t.isSuspended || t.isFinished || t.isShowing)

/-- A start or a timer that is about to open the cycle of its session finds the session running, and
the start finds no request in it. -/
def Poised (s : State) : Task → Prop
  | .start (.cycling session .ready) =>
    s.running = true ∧ s.session = session ∧ s.lastCycle = none
  | .timer session (.cycling .ready) => s.running = true ∧ s.session = session
  | _ => True

theorem Poised.congr {s u : State} {t : Task} (h : t.Poised s) (hrun : u.running = s.running)
    (hsession : u.session = s.session) (hlast : u.lastCycle = s.lastCycle) : t.Poised u := by
  unfold Poised at h ⊢
  rw [hrun, hsession, hlast]
  exact h

/-- Only a task inside of a cycle that has not opened can be caught off its guard. -/
theorem poised_of_not_ready {t : Task} (h : t.cycle? ≠ some .ready) (s : State) : t.Poised s := by
  unfold Poised
  split
  · exact absurd rfl h
  · exact absurd rfl h
  · trivial

/-- A task that is not in the middle of a stretch is not about to open the cycle of a session. -/
theorem poised_of_not_busy {t : Task} (h : t.isBusy = false) (s : State) : t.Poised s := by
  unfold Poised
  split
  · exact absurd h.symm Bool.false_ne_true
  · exact absurd h.symm Bool.false_ne_true
  · trivial

end Task

/-- A cycle behind a reply does not open any more. -/
theorem Task.cycle?_ne_ready_of_deliver {t next : Task} {reply : Backend.Reply}
    (h : t.deliver reply = some next) : next.cycle? ≠ some .ready := by
  obtain ⟨owner, session, endpoint, _, rfl⟩ := Task.answered_of_deliver h
  rw [Task.cycle?_task]
  exact nofun

/-- A step of a cycle leaves the opening behind. -/
theorem Cycle.Step.ne_ready {hint : String} {now place : Nat} {s state : State}
    {cycle next : Cycle} {effects : List Effect}
    (h : Cycle.Step hint now place s cycle (state, next, effects)) : next ≠ .ready := by
  cases h <;> exact nofun

/-- A deed leaves its task poised.  `hown` says what a timer that wakes up needs. -/
theorem Deed.poised {c : Context} {s : State} {t : Task} {p : Piece} (h : Deed c s t p)
    (hs : s.Sound)
    (hown : ∀ {session wakeAt}, t = .timer session (.sleeping wakeAt) →
      s.running = true ∧ s.session = session) : p.task.Poised p.state := by
  cases h with
  | enter hstop => exact ⟨rfl, rfl, (hs.stopped hstop).2.1⟩
  | wake => exact hown rfl
  | cycle _ hstep =>
      refine Task.poised_of_not_ready ?_ _
      rw [Task.cycle?_task]
      exact fun hready => hstep.ne_ready (Option.some.inj hready)
  | undo hphase | release hphase => cases hphase <;> trivial
  | refuse | firstOver | arm | pass | lieDown | retire | scheduledOver => trivial

namespace System

/-- The places of the tasks that are in the middle of a stretch. -/
def busy (s : System) : List Nat :=
  (List.range s.slots.length).filter fun place => (s.task? place).any (·.isBusy)

theorem mem_busy {s : System} {place : Nat} {t : Task} (ht : s.task? place = some t)
    (hbusy : t.isBusy = true) : place ∈ s.busy := by
  obtain ⟨slot, hslot, rfl⟩ := task?_eq_some_iff.mp ht
  refine List.mem_filter.mpr ⟨List.mem_range.mpr (lt_length_of_getElem? hslot), ?_⟩
  rw [ht]
  exact hbusy

/-- Does the event leave alone the stretches of other tasks?  Neither does a task take a step, nor
is the poller stopped, in the middle of them. -/
def unbroken (s : System) : Event → Bool
  | .step id => s.busy.all (· == id)
  | .stop => s.busy.isEmpty
  | _ => true

theorem not_busy_of_step {s : System} {id place : Nat} {t : Task}
    (h : s.unbroken (.step id) = true) (hplace : place ≠ id) (ht : s.task? place = some t) :
    t.isBusy = false := by
  rw [Bool.eq_false_iff]
  intro hbusy
  exact hplace (beq_iff_eq.mp (List.all_eq_true.mp h place (mem_busy ht hbusy)))

theorem not_busy_of_stop {s : System} {place : Nat} {t : Task} (h : s.unbroken .stop = true)
    (ht : s.task? place = some t) : t.isBusy = false := by
  rw [Bool.eq_false_iff]
  intro hbusy
  have hnone : s.busy = [] := List.isEmpty_iff.mp h
  have hmem := mem_busy ht hbusy
  rw [hnone] at hmem
  exact absurd hmem List.not_mem_nil

/-- A timer that was not told to end, and has not ended, is that of the session that runs. -/
theorem session_of_timer {s : System} (hreach : Reachable s) {id session : Nat} {phase : Timer}
    (hslot : s.slots[id]? = some ⟨.timer session phase, false⟩) (hphase : phase ≠ .ended) :
    s.state.running = true ∧ s.state.session = session := by
  have hrole : s.role id = .timer session := by
    rw [role_of_getElem? hslot]
    refine Slot.role_eq_timer_iff.mpr ⟨?_, rfl⟩
    cases phase with
    | ended => exact absurd rfl hphase
    | spawned | checking | sleeping | cycling => rfl
  have htimer := (lifecycle_of_reachable hreach).role_timer_iff.mp hrole
  have hsound := sound_of_reachable hreach
  exact ⟨hsound.running_of_timer htimer, (hsound.timer_session _ htimer).symm⟩

/-- Every task of the poller that is about to open the cycle of its session finds it running. -/
def Poised (s : System) : Prop := ∀ place t, s.task? place = some t → t.Poised s.state

theorem poised_new (hint : String) : (new hint).Poised := fun _ _ h => absurd h nofun

/-- Only a step of a task and a stop change the running period or the clock of requests. -/
theorem period_of_apply {s t : System} {e : Event} {effects : List Effect}
    (h : s.apply e = some (t, effects)) (hstep : ∀ id, e ≠ .step id) (hstop : e ≠ .stop) :
    t.state.running = s.state.running ∧ t.state.session = s.state.session ∧
      t.state.lastCycle = s.state.lastCycle := by
  have hthrough : (s.state.through (s.section? e)).running = s.state.running ∧
      (s.state.through (s.section? e)).session = s.state.session ∧
      (s.state.through (s.section? e)).lastCycle = s.state.lastCycle := by
    cases e with
    | step id => exact absurd rfl (hstep id)
    | stop => exact absurd rfl hstop
    | start | poll | deliver | abort | drop | configure | clearHistory | tick | retain
    | release => exact ⟨rfl, rfl, rfl⟩
  rcases state_of_apply h with heq | heq
  · rw [heq]
    exact hthrough
  · rw [heq]
    exact hthrough

/-- A task to which nothing happens stays poised: it is not in the middle of a stretch where another
one takes a step or the poller is stopped. -/
theorem poised_of_kept {s t : System} {e : Event} {effects : List Effect} {place : Nat}
    {task : Task} (hrule : s.unbroken e = true) (h : s.apply e = some (t, effects))
    (he : e ≠ .step place) (htask : s.task? place = some task) (hs : task.Poised s.state) :
    task.Poised t.state := by
  have hperiod := period_of_apply h
  cases e with
  | step id =>
      have hplace : place ≠ id := fun heq => he (congrArg Event.step heq.symm)
      exact Task.poised_of_not_busy (not_busy_of_step hrule hplace htask) _
  | stop => exact Task.poised_of_not_busy (not_busy_of_stop hrule htask) _
  | start | poll | deliver | abort | drop | configure | clearHistory | tick | retain | release =>
      obtain ⟨hrun, hsession, hlast⟩ := hperiod nofun nofun
      exact hs.congr hrun hsession hlast

/-- Every transition of an unbroken run leaves all tasks poised. -/
theorem Poised.apply {s t : System} {e : Event} {effects : List Effect} (hs : s.Poised)
    (hreach : Reachable s) (hrule : s.unbroken e = true) (h : s.apply e = some (t, effects)) :
    t.Poised := by
  intro place task htask
  have hfate := fate_of_apply h place
  rw [htask] at hfate
  generalize hbefore : s.task? place = before at hfate
  cases hfate with
  | kept he => exact poised_of_kept hrule h he hbefore (hs place task hbefore)
  | called hcall => rcases hcall with ⟨_, rfl⟩ | ⟨_, _, rfl⟩ <;> trivial
  | spawned => trivial
  | @stepped slot _ he hslot hfree =>
      subst he
      obtain ⟨p, hdeed, rfl, _, hnext⟩ := deed_of_step hbefore h
      rw [Option.some.inj (htask.symm.trans hnext)]
      have hpoised : p.task.Poised p.state := by
        refine hdeed.poised (sound_of_reachable hreach) fun {session wakeAt} hsleeping => ?_
        have hgoes : slot.aborted = false := by
          rw [hsleeping] at hfree
          simpa only [Task.isSuspended, Bool.and_true] using hfree
        have htimer : s.slots[place]? = some ⟨.timer session (.sleeping wakeAt), false⟩ := by
          rw [hslot, ← hsleeping, ← hgoes]
        exact session_of_timer hreach htimer nofun
      exact hpoised.congr (running_reap _) (session_reap _) (lastCycle_reap _)
  | delivered _ hnext =>
      exact Task.poised_of_not_ready (Task.cycle?_ne_ready_of_deliver hnext) _
  | dropped =>
      refine Task.poised_of_not_ready ?_ _
      rw [Task.cycle?_dropped]
      exact nofun

/-- At every moment of an unbroken run, a task that is about to open the cycle of its session finds
the session running. -/
theorem poised_of_run {hint : String} {events : List Event} {s : System} {effects : List Effect}
    (hheeds : (new hint).heeds unbroken events = true)
    (hrun : (new hint).run events = some (s, effects)) : s.Poised :=
  heeding_induction (P := Poised) poised_new
    (fun hreach hs hrule happly => hs.apply hreach hrule happly) hheeds hrun

end System

end AlarmMonitor.Polling
