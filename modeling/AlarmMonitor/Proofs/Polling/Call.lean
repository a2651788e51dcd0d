import AlarmMonitor.Proofs.Polling.Lifecycle

/-!
# A poller that is started by one call at a time

Whoever starts a poller only behind an earlier start, and is the only one to start and stop it,
knows what comes of the start:

* `System.NoStart`, `System.Underway`: no start is under way, or only this one is;
* `System.NoStart.apply`, `System.Underway.apply`: whatever others do meanwhile keeps that, and
  keeps the poller running or stopped;
* `System.Underway.over`: a start that is over leaves a running poller behind;
* `System.NoStart.hasTimer`: a running poller then has its timer.
-/

set_option autoImplicit false

namespace AlarmMonitor.Polling

/-- Inside a timer nothing happens to the running period. -/
theorem Timer.control_of_piece {c : Context} {s : State} {session : Nat} {phase : Timer} {p : Piece}
    (h : phase.piece c s session = some p) :
    p.state.control = s.control ∧ ∃ next, p.task = .timer session next := by
  have hlook : Timer.checking.piece c s session = some p →
      p.state.control = s.control ∧ ∃ next, p.task = .timer session next := by
    intro h
    simp only [piece] at h
    split at h
    · split at h <;> exact (Option.some.inj h) ▸ ⟨rfl, _, rfl⟩
    · exact (Option.some.inj h) ▸ ⟨rfl, _, rfl⟩
  cases phase with
  | spawned => exact hlook h
  | checking => exact hlook h
  | sleeping wakeAt =>
      simp only [piece] at h
      split at h
      · split at h <;> exact (Option.some.inj h) ▸ ⟨rfl, _, rfl⟩
      · exact absurd h (Option.some_ne_none p).symm
  | cycling cycle =>
      cases cycle with
      | ended outcome =>
          cases Option.some.inj h
          exact ⟨rfl, _, rfl⟩
      | ready | waiting | answered | showing =>
          simp only [piece] at h
          obtain ⟨hcontrol, _, next, htask⟩ := Cycle.control_of_piece h
          exact ⟨hcontrol, _, htask⟩
  | ended => exact absurd h (Option.some_ne_none p).symm

namespace Task

/-- Is the task a call of `start`? -/
def isStart : Task → Bool
  | .start _ => true
  | _ => false

theorem eq_start_of_isStart {t : Task} (h : t.isStart = true) : ∃ phase, t = .start phase := by
  cases t with
  | start phase => exact ⟨phase, rfl⟩
  | poll | timer | gone => exact absurd h nofun

/-- A task that is no start leaves the running period alone, and does not become one. -/
theorem piece_of_not_start {c : Context} {s : State} {t : Task} {p : Piece}
    (ht : t.isStart = false) (h : t.piece c s = some p) :
    p.state.control = s.control ∧ p.spawned = [] ∧ p.task.isStart = false := by
  cases t with
  | start phase => exact absurd ht nofun
  | poll cycle =>
      obtain ⟨hcontrol, hspawned, next, htask⟩ := Cycle.control_of_piece h
      exact ⟨hcontrol, hspawned, by rw [htask]; rfl⟩
  | timer session phase =>
      obtain ⟨hcontrol, next, htask⟩ := Timer.control_of_piece h
      exact ⟨hcontrol, (Timer.state_of_piece h).2, by rw [htask]; rfl⟩
  | gone => exact absurd h nofun

/-- A task that is no start does not become one by a reply. -/
theorem isStart_of_deliver {t next : Task} {reply : Backend.Reply} (ht : t.isStart = false)
    (h : t.deliver reply = some next) : next.isStart = false := by
  cases t with
  | start phase => exact absurd ht nofun
  | poll cycle =>
      obtain ⟨_, _, rfl⟩ := Option.map_eq_some_iff.mp h
      rfl
  | timer session phase =>
      cases phase with
      | cycling cycle =>
          obtain ⟨_, _, rfl⟩ := Option.map_eq_some_iff.mp h
          rfl
      | spawned | checking | sleeping | ended => exact absurd h nofun
  | gone => exact absurd h nofun

/-- What is left of a dropped task that is no start is none either. -/
theorem isStart_dropped {t : Task} (ht : t.isStart = false) : t.dropped.isStart = false := by
  cases t with
  | start => exact absurd ht nofun
  | poll | timer | gone => rfl

end Task

namespace System

/-- Does the event leave starting and stopping to others?  It neither starts nor stops the poller,
and drops no start. -/
def abstains (s : System) : Event → Bool
  | .start _ | .stop => false
  | .drop id => !(s.task? id).any (·.isStart)
  | _ => true

/-! ## The starts behind a transition -/

theorem task?_addTask_eq_some_iff {s : System} {t new : Task} {place : Nat} :
    (s.addTask new).task? place = some t ↔
      s.task? place = some t ∨ (place = s.slots.length ∧ t = new) := by
  simp only [task?_eq_some_iff, getElem?_addTask_eq_some_iff]
  constructor
  · rintro ⟨slot, hslot | ⟨hplace, rfl⟩, rfl⟩
    · exact Or.inl ⟨slot, hslot, rfl⟩
    · exact Or.inr ⟨hplace, rfl⟩
  · rintro (⟨slot, hslot, rfl⟩ | ⟨hplace, rfl⟩)
    · exact ⟨slot, Or.inl hslot, rfl⟩
    · exact ⟨_, Or.inr ⟨hplace, rfl⟩, rfl⟩

/-- The task at a place where a task was put. -/
theorem task?_setTask_eq_some {s : System} {id place : Nat} {slot : Slot} {t new : Task}
    (hslot : s.slots[id]? = some slot) (h : (s.setTask id new).task? place = some t) :
    (place = id ∧ t = new) ∨ (place ≠ id ∧ s.task? place = some t) := by
  by_cases hplace : place = id
  · rw [hplace, task?_setTask_self hslot] at h
    exact Or.inl ⟨hplace, (Option.some.inj h).symm⟩
  · rw [task?_setTask_ne hplace] at h
    exact Or.inr ⟨hplace, h⟩

/-- Where the transition is not a step of a start, an event that abstains leaves the running period
alone, and every start behind it was one before, at the same point or with a reply. -/
theorem start_of_act {s u : System} {e : Event} {effects : List Effect}
    (he : s.abstains e = true)
    (hstep : ∀ {id phase}, e = .step id → s.task? id = some (.start phase) → phase = .returned)
    (h : s.act e = some (u, effects)) :
    u.state.control = s.state.control ∧
      ∀ {id next}, u.task? id = some (.start next) →
        ∃ phase, s.task? id = some (.start phase) ∧
          (next = phase ∨ ∃ session before after, phase = .cycling session before ∧
            next = .cycling session after) := by
  have hkept : ∀ {id next}, s.task? id = some (.start next) →
      ∃ phase, s.task? id = some (.start phase) ∧
        (next = phase ∨ ∃ session before after, phase = .cycling session before ∧
          next = .cycling session after) := fun h => ⟨_, h, Or.inl rfl⟩
  cases act_eq_some_iff.mp h with
  | start | stop => exact absurd he nofun
  | poll =>
      refine ⟨rfl, fun {id next} ht => ?_⟩
      rcases task?_addTask_eq_some_iff.mp ht with hold | ⟨_, hnew⟩
      · exact hkept hold
      · exact absurd hnew nofun
  | @step id slot p hslot _ hp =>
      have htask : s.task? id = some slot.task := task?_eq_some_iff.mpr ⟨slot, hslot, rfl⟩
      have hother : slot.task.isStart = false := by
        rw [Bool.eq_false_iff]
        intro hstart
        obtain ⟨phase, hphase⟩ := Task.eq_start_of_isStart hstart
        rw [hphase] at hp htask
        cases hstep rfl htask
        exact absurd hp nofun
      obtain ⟨hcontrol, hspawned, hnext⟩ := Task.piece_of_not_start hother hp
      refine ⟨hcontrol, fun {place next} ht => ?_⟩
      have hslots : (s.leave id p).task? place = (s.setTask id p.task).task? place := by
        unfold task?
        rw [slots_leave_of_spawned_nil hspawned]
      rw [hslots] at ht
      rcases task?_setTask_eq_some hslot ht with ⟨_, htask'⟩ | ⟨_, hold⟩
      · rw [← htask'] at hnext
        exact absurd hnext nofun
      · exact hkept hold
  | @deliver id reply slot new hslot hnew =>
      refine ⟨rfl, fun {place next} ht => ?_⟩
      rcases task?_setTask_eq_some hslot ht with ⟨hplace, rfl⟩ | ⟨_, hold⟩
      · have hstart : slot.task.isStart = true := by
          rw [← Bool.not_eq_false]
          intro hother
          exact absurd (Task.isStart_of_deliver hother hnew) nofun
        obtain ⟨phase, hphase⟩ := Task.eq_start_of_isStart hstart
        refine ⟨phase, task?_eq_some_iff.mpr ⟨slot, hplace ▸ hslot, hphase⟩, ?_⟩
        rw [hphase] at hnew
        cases phase with
        | cycling session before =>
            obtain ⟨after, _, heq⟩ := Option.map_eq_some_iff.mp hnew
            cases heq
            exact Or.inr ⟨session, before, after, rfl, rfl⟩
        | entering | arming | leaving | cancelled | returned => exact absurd hnew nofun
      · exact hkept hold
  | abort =>
      refine ⟨rfl, fun {place next} ht => ?_⟩
      rw [task?_markAborted] at ht
      exact hkept ht
  | @drop id slot hslot =>
      refine ⟨rfl, fun {place next} ht => ?_⟩
      rcases task?_setTask_eq_some hslot ht with ⟨_, htask⟩ | ⟨_, hold⟩
      · have hother : slot.task.isStart = false := by
          have hfound : s.task? id = some slot.task := task?_eq_some_iff.mpr ⟨slot, hslot, rfl⟩
          simpa only [abstains, hfound, Option.any_some, Bool.not_eq_true'] using he
        have hdropped := Task.isStart_dropped hother
        rw [← htask] at hdropped
        exact absurd hdropped nofun
      · exact hkept hold
  | configure | clearHistory | tick | retain | release => exact ⟨rfl, hkept⟩

/-! ## No start under way -/

/-- No start is under way. -/
def NoStart (s : System) : Prop :=
  ∀ {id phase}, s.task? id = some (.start phase) → phase = .returned

theorem noStart_new (hint : String) : (new hint).NoStart := fun h => absurd h nofun

/-- Giving up a poller leaves its running period to the last. -/
theorem running_reap (s : System) : s.reap.state.running = s.state.running := by
  rcases state_reap s with h | h <;> rw [h]

theorem session_reap (s : System) : s.reap.state.session = s.state.session := by
  rcases state_reap s with h | h <;> rw [h]

theorem NoStart.reap {s : System} (hs : s.NoStart) : s.reap.NoStart := by
  intro id phase h
  rw [task?_reap] at h
  exact hs h

/-- As long as no start is under way and others abstain, the poller stays running or stopped. -/
theorem NoStart.apply {s t : System} {e : Event} {effects : List Effect} (hs : s.NoStart)
    (he : s.abstains e = true) (h : s.apply e = some (t, effects)) :
    t.NoStart ∧ t.state.running = s.state.running := by
  obtain ⟨u, hact, rfl⟩ := apply_eq_some_iff.mp h
  obtain ⟨hcontrol, hstart⟩ := start_of_act he (fun _ hstep => hs hstep) hact
  have hu : u.NoStart := by
    intro id next hnext
    obtain ⟨phase, hphase, heq | ⟨_, _, _, hcycling, _⟩⟩ := hstart hnext
    · rw [heq]
      exact hs hphase
    · rw [hs hphase] at hcycling
      exact absurd hcycling nofun
  refine ⟨hu.reap, ?_⟩
  rw [running_reap]
  exact (State.control_eq_iff.mp hcontrol).1

/-- Stopping the poller begins no start. -/
theorem NoStart.stop {s t : System} {effects : List Effect} (hs : s.NoStart)
    (h : s.apply .stop = some (t, effects)) : t.NoStart ∧ t.state.running = false := by
  obtain ⟨u, hact, rfl⟩ := apply_eq_some_iff.mp h
  cases act_eq_some_iff.mp hact with
  | stop =>
      have hu : s.stop.1.NoStart := by
        intro id phase hphase
        rw [task?_stop] at hphase
        exact hs hphase
      refine ⟨hu.reap, ?_⟩
      rw [running_reap, state_stop]
      rfl

/-- A running poller that somebody holds, and no start of which is under way, has its timer. -/
theorem NoStart.hasTimer {s : System} (hs : s.NoStart) (hreach : Reachable s)
    (halive : s.isAlive = true) (hrun : s.state.running = true) : s.HasTimer := by
  have hlife := lifecycle_of_reachable hreach
  cases ht : s.state.timer with
  | some t => exact ⟨t, ht, (sound_of_reachable hreach).timer_session t ht⟩
  | none =>
      obtain ⟨place, hrole⟩ := hlife.attended halive hrun ht
      obtain ⟨task, htask, hopening⟩ := isPendingStart_iff.mpr hrole
      cases task with
      | start phase =>
          rw [hs htask] at hopening
          exact absurd hopening nofun
      | timer session phase => cases phase <;> exact absurd hopening nofun
      | poll | gone => exact absurd hopening nofun

end System

/-! ## One start under way -/

/-- Where a start stands that nobody interferes with. -/
def Start.Goes (s : State) : Start → Prop
  | .entering _ => True
  | .cycling session _ | .arming session | .leaving session =>
    s.running = true ∧ s.session = session
  | .returned => s.running = true
  | .cancelled _ => False

namespace Start

/-- The point depends on the running period only. -/
theorem Goes.congr {s u : State} {phase : Start} (h : phase.Goes s)
    (hrun : u.running = s.running) (hsession : u.session = s.session) : phase.Goes u := by
  cases phase with
  | entering => trivial
  | cycling | arming | leaving => exact ⟨hrun.trans h.1, hsession.trans h.2⟩
  | returned => exact hrun.trans h
  | cancelled => exact h

/-- A start that nobody interferes with goes on to the next point, and stays a start. -/
theorem Goes.piece {c : Context} {s : State} {phase : Start} {p : Piece} (h : phase.Goes s)
    (hp : phase.piece c s = some p)
    (htimer : ∀ {session}, phase = .leaving session → ¬ s.awaitsTimer session = true) :
    ∃ next, p.task = .start next ∧ next.Goes p.state := by
  cases phase with
  | entering options =>
      simp only [Start.piece] at hp
      rcases Bool.eq_false_or_eq_true s.running with hrun | hrun
      · rw [State.enter_of_running hrun] at hp
        cases Option.some.inj hp
        exact ⟨_, rfl, hrun⟩
      · rw [State.enter_of_stopped hrun] at hp
        cases Option.some.inj hp
        exact ⟨_, rfl, rfl, rfl⟩
  | cycling session cycle =>
      cases cycle with
      | ended outcome =>
          cases Option.some.inj hp
          exact ⟨_, rfl, h⟩
      | ready | waiting | answered | showing =>
          simp only [Start.piece] at hp
          obtain ⟨hcontrol, _, next, htask⟩ := Cycle.control_of_piece hp
          obtain ⟨hrun, hsession, _⟩ := State.control_eq_iff.mp hcontrol
          exact ⟨_, htask, hrun.trans h.1, hsession.trans h.2⟩
  | arming session =>
      by_cases hawaits : s.awaitsTimer session = true
      · simp only [Start.piece, State.arm_of_awaits hawaits, if_true] at hp
        cases Option.some.inj hp
        exact ⟨_, rfl, h⟩
      · simp only [Start.piece, State.arm_of_not_awaits hawaits, Bool.false_eq_true,
          if_false] at hp
        cases Option.some.inj hp
        exact ⟨_, rfl, h⟩
  | leaving session =>
      rw [Start.piece, State.rollBack_of_not_awaits (htimer rfl)] at hp
      cases Option.some.inj hp
      exact ⟨_, rfl, h.1⟩
  | cancelled session => exact absurd h id
  | returned => exact absurd hp (Option.some_ne_none p).symm

end Start

namespace System

/-- The call is a start, nobody interferes with it, and no other start is under way. -/
structure Underway (s : System) (call : Nat) : Prop where
  others : ∀ {id phase}, id ≠ call → s.task? id = some (.start phase) → phase = .returned
  goes : ∃ phase, s.task? call = some (.start phase) ∧ phase.Goes s.state

theorem Underway.reap {s : System} {call : Nat} (hs : s.Underway call) : s.reap.Underway call := by
  refine ⟨?_, ?_⟩
  · intro id phase hid h
    rw [task?_reap] at h
    exact hs.others hid h
  · obtain ⟨phase, htask, hgoes⟩ := hs.goes
    exact ⟨phase, (task?_reap s call).trans htask,
      hgoes.congr (running_reap s) (session_reap s)⟩

/-- A start that begins while no other is under way. -/
theorem NoStart.begin {s t : System} {options : Options} {effects : List Effect} (hs : s.NoStart)
    (h : s.apply (.start options) = some (t, effects)) : t.Underway s.slots.length := by
  obtain ⟨u, hact, rfl⟩ := apply_eq_some_iff.mp h
  cases act_eq_some_iff.mp hact with
  | start =>
      refine Underway.reap ⟨?_, ?_⟩
      · intro id phase hid htask
        rcases task?_addTask_eq_some_iff.mp htask with hold | ⟨hnew, _⟩
        · exact hs hold
        · exact absurd hnew hid
      · exact ⟨_, task?_addTask_eq_some_iff.mpr (Or.inr ⟨rfl, rfl⟩), trivial⟩

/-- A piece of a task leaves every start at another place where it is, and begins none. -/
theorem start_of_leave {s : System} {id place : Nat} {slot : Slot} {p : Piece} {phase : Start}
    (hp : slot.task.piece (s.context id) s.state = some p) (hplace : place ≠ id)
    (h : (s.leave id p).task? place = some (.start phase)) :
    s.task? place = some (.start phase) := by
  rw [← task?_setTask_ne hplace p.task]
  rcases Task.spawned_of_piece hp with hspawned | ⟨session, hspawned⟩
  · unfold task? at h ⊢
    rw [slots_leave_of_spawned_nil hspawned] at h
    exact h
  · have hadded : ((s.setTask id p.task).addTask (.timer session .spawned)).task? place =
        some (.start phase) := by
      unfold task? at h ⊢
      rw [slots_leave_of_spawned hspawned] at h
      exact h
    rcases task?_addTask_eq_some_iff.mp hadded with hold | ⟨_, hnew⟩
    · exact hold
    · exact absurd hnew nofun

/-- The start that is under way takes its next piece. -/
theorem Underway.step {s u : System} {call : Nat} {effects : List Effect} (hs : s.Underway call)
    (hreach : Reachable s) (h : s.act (.step call) = some (u, effects)) : u.Underway call := by
  cases act_eq_some_iff.mp h with
  | @step _ slot p hslot _ hp =>
      obtain ⟨phase, htask, hgoes⟩ := hs.goes
      have hphase : slot.task = .start phase :=
        Option.some.inj ((task?_eq_some_iff.mpr ⟨slot, hslot, rfl⟩).symm.trans htask)
      have hguard : ∀ {session}, phase = .leaving session →
          ¬ s.state.awaitsTimer session = true := by
        -- behind the section that installs the timer the session has one
        rintro session rfl hawaits
        obtain ⟨hrun, hsession, hnone⟩ := State.awaitsTimer_iff.mp hawaits
        have hrole : s.role call = .leaving s.state.session := by
          rw [role_of_getElem? hslot, hsession]
          exact Slot.role_eq_leaving_iff.mpr (congrArg Task.role hphase)
        exact (lifecycle_of_reachable hreach).timer_of_leaving hrole hrun hnone
      have hpiece : phase.piece (s.context call) s.state = some p := by
        rw [hphase] at hp
        exact hp
      obtain ⟨next, hnext, hgoes'⟩ := hgoes.piece hpiece hguard
      refine ⟨?_, ⟨next, ?_, hgoes'⟩⟩
      · intro id other hid hother
        exact hs.others hid (start_of_leave hp hid hother)
      · rw [task?_leave_self hslot, hnext]

/-- As long as others abstain, a start that is under way goes on. -/
theorem Underway.apply {s t : System} {e : Event} {call : Nat} {effects : List Effect}
    (hs : s.Underway call) (hreach : Reachable s) (he : s.abstains e = true)
    (h : s.apply e = some (t, effects)) : t.Underway call := by
  obtain ⟨u, hact, rfl⟩ := apply_eq_some_iff.mp h
  refine Underway.reap ?_
  by_cases hown : e = .step call
  · rw [hown] at hact
    exact hs.step hreach hact
  · obtain ⟨phase, htask, hgoes⟩ := hs.goes
    have hstep : ∀ {id phase}, e = .step id → s.task? id = some (.start phase) →
        phase = .returned := by
      rintro id phase rfl hphase
      exact hs.others (fun heq => hown (congrArg Event.step heq)) hphase
    obtain ⟨hcontrol, hstart⟩ := start_of_act he hstep hact
    obtain ⟨hrun, hsession, _⟩ := State.control_eq_iff.mp hcontrol
    refine ⟨?_, ?_⟩
    · intro id next hid hnext
      obtain ⟨before, hbefore, heq | ⟨_, _, _, hcycling, _⟩⟩ := hstart hnext
      · rw [heq]
        exact hs.others hid hbefore
      · rw [hs.others hid hbefore] at hcycling
        exact absurd hcycling nofun
    · -- the call is still a start, for its task is dropped by nobody
      have hkept : ∃ next, u.task? call = some (.start next) := by
        by_cases htarget : e.task? = some call
        · cases act_eq_some_iff.mp hact with
          | step =>
              cases htarget
              exact absurd rfl hown
          | @deliver _ reply slot new hslot hnew =>
              cases htarget
              have hphase : slot.task = .start phase :=
                Option.some.inj ((task?_eq_some_iff.mpr ⟨slot, hslot, rfl⟩).symm.trans htask)
              rw [hphase] at hnew
              cases phase with
              | cycling session before =>
                  obtain ⟨after, _, heq⟩ := Option.map_eq_some_iff.mp hnew
                  rw [← heq]
                  exact ⟨_, task?_setTask_self hslot _⟩
              | entering | arming | leaving | cancelled | returned => exact absurd hnew nofun
          | abort =>
              cases htarget
              rw [task?_markAborted]
              exact ⟨phase, htask⟩
          | drop =>
              cases htarget
              simp only [abstains, htask, Option.any_some, Task.isStart] at he
              exact absurd he nofun
          | start | poll | configure | stop | clearHistory | tick | retain | release =>
              exact absurd htarget nofun
        · exact ⟨phase, task?_of_act hact htarget htask⟩
      obtain ⟨next, hnext⟩ := hkept
      obtain ⟨before, hbefore, hgone⟩ := hstart hnext
      have hsame : before = phase :=
        Task.start.inj (Option.some.inj (hbefore.symm.trans htask))
      rw [hsame] at hgone
      refine ⟨next, hnext, ?_⟩
      rcases hgone with heq | ⟨session, _, _, hcycling, heq⟩
      · rw [heq]
        exact hgoes.congr hrun hsession
      · rw [hcycling] at hgoes
        rw [heq]
        exact ⟨hrun.trans hgoes.1, hsession.trans hgoes.2⟩

/-- A start that is over leaves a running poller, and no start under way. -/
theorem Underway.over {s : System} {call : Nat} (hs : s.Underway call)
    (hover : (s.task? call).any (·.isFinished) = true) :
    s.NoStart ∧ s.state.running = true := by
  obtain ⟨phase, htask, hgoes⟩ := hs.goes
  have hreturned : phase = .returned := by
    rw [htask, Option.any_some] at hover
    cases phase with
    | returned => rfl
    | entering | cycling | arming | leaving | cancelled => exact absurd hover nofun
  rw [hreturned] at htask hgoes
  refine ⟨?_, hgoes⟩
  intro id other hother
  by_cases hid : id = call
  · rw [hid, htask] at hother
    exact (Task.start.inj (Option.some.inj hother)).symm
  · exact hs.others hid hother

end System

end AlarmMonitor.Polling
