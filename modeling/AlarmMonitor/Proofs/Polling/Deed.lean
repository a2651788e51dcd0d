import AlarmMonitor.Proofs.Polling.Request

/-!
# What a piece of a task does

`Deed` lists the twelve things that a piece of a task can do, each with the state, the task and
the effects behind it.  What is said of a piece anywhere is read off this list:

* `Task.deed_of_piece`: a piece does one of these things;
* `Cycle.Step.asks_or_silent`: a step of a cycle begins a request, or nothing is seen of it outside
  the log and the sink;
* `System.deed_of_step`: a step of a task, with the poller behind it;
* `System.fate_of_apply`: what a transition does at a place is one of six things, listed by
  `System.Fate`.
-/

set_option autoImplicit false

namespace AlarmMonitor.Polling

/-- A timer learns the configured interval in its own session only. -/
theorem State.timerInterval_eq_some_iff {s : State} {session : Nat} {interval : Duration} :
    s.timerInterval session = some interval ↔
      s.running = true ∧ s.session = session ∧ interval = s.config.interval := by
  rcases s.stale_or_current session with hstale | ⟨hrun, hsession⟩
  · rw [timerInterval_eq_none_iff.mpr hstale]
    refine ⟨nofun, ?_⟩
    rintro ⟨hrun, hsession, _⟩
    rcases hstale with hstop | hother
    · exact absurd (hrun.symm.trans hstop) Bool.true_eq_false.mp
    · exact absurd hsession hother
  · have hcurrent : ¬ (!s.running || s.session != session) = true := by
      rw [hrun, hsession, bne_self_eq_false]
      exact Bool.false_ne_true
    unfold timerInterval
    rw [if_neg hcurrent, Option.some.injEq]
    exact ⟨fun h => ⟨hrun, hsession, h.symm⟩, fun h => h.2.2.symm⟩

/-- Is the start at the point where its guard is released, and what is left of it then? -/
inductive Start.Releases (session : Nat) : Start → Task → Prop where
  /-- The call has gone through the section that installs the timer. -/
  | returns : Releases session (.leaving session) (.start .returned)
  /-- The call was dropped in its first cycle. -/
  | vanishes : Releases session (.cancelled session) .gone

/-- Is the timer at a point where it can end, at the instant? -/
inductive Timer.Retires (now : Nat) : Timer → Prop where
  | first : Retires now .spawned
  | again : Retires now .checking
  /-- A timer that sleeps ends no earlier than it would have woken up. -/
  | asleep {wakeAt : Nat} (hawake : wakeAt ≤ now) : Retires now (.sleeping wakeAt)

/-- What the next piece of a task does, in a state of its poller. -/
inductive Deed (c : Context) (s : State) : Task → Piece → Prop where
  /-- A start leaves a running poller alone. -/
  | refuse {o : Options} (hrun : s.running = true) :
      Deed c s (.start (.entering o)) ⟨s, .start .returned, [], []⟩
  /-- A start opens a session of a stopped poller. -/
  | enter {o : Options} (hstop : s.running = false) :
      Deed c s (.start (.entering o))
        ⟨{ s with config := (s.config.merge o).config, running := true, session := s.session + 1 },
          .start (.cycling (s.session + 1) .ready), [],
          System.notes (State.mergeNotes (s.config.merge o) ++
            [.started (s.config.merge o).config.endpoint (s.config.merge o).config.interval])⟩
  /-- A cycle takes its next step. -/
  | cycle {owner : Owner} {t : Task} {cycle next : Cycle} {state : State} {effects : List Effect}
      (ht : t = owner.task cycle)
      (h : Cycle.Step c.hint c.now c.place s cycle (state, next, effects)) :
      Deed c s t ⟨state, owner.task next, [], effects⟩
  /-- The first cycle of a start is over. -/
  | firstOver {session : Nat} {outcome : Outcome} :
      Deed c s (.start (.cycling session (.ended outcome)))
        ⟨s, .start (.arming session), [], [.note (.firstCycle outcome)]⟩
  /-- A start installs the timer of its session. -/
  | arm {session : Nat} (h : s.awaitsTimer session = true) :
      Deed c s (.start (.arming session))
        ⟨{ s with timer := some ⟨c.next, session⟩ }, .start (.leaving session),
          [.timer session .spawned], [.spawned c.next]⟩
  /-- A start finds its session over, or with a timer. -/
  | pass {session : Nat} (h : ¬ s.awaitsTimer session = true) :
      Deed c s (.start (.arming session)) ⟨s, .start (.leaving session), [], []⟩
  /-- The guard of a start undoes its session. -/
  | undo {session : Nat} {phase : Start} {next : Task} (hphase : phase.Releases session next)
      (h : s.awaitsTimer session = true) :
      Deed c s (.start phase)
        ⟨{ s with running := false, seen := s.seen.clear, lastCycle := none }, next, [],
          [.note .startCancelled]⟩
  /-- The guard of a start has nothing to undo. -/
  | release {session : Nat} {phase : Start} {next : Task} (hphase : phase.Releases session next)
      (h : ¬ s.awaitsTimer session = true) : Deed c s (.start phase) ⟨s, next, [], []⟩
  /-- A timer lies down for the configured interval. -/
  | lieDown {session : Nat} {phase : Timer} (hphase : phase = .spawned ∨ phase = .checking)
      (hrun : s.running = true) (hsession : s.session = session) :
      Deed c s (.timer session phase)
        ⟨s, .timer session (.sleeping (c.now + s.config.interval.nanos)), [], []⟩
  /-- A timer ends. -/
  | retire {session : Nat} {phase : Timer} (hphase : phase.Retires c.now)
      (hover : c.alive = false ∨ s.running = false ∨ s.session ≠ session) :
      Deed c s (.timer session phase) ⟨s, .timer session .ended, [], []⟩
  /-- A timer wakes up. -/
  | wake {session wakeAt : Nat} (hawake : wakeAt ≤ c.now) (halive : c.alive = true) :
      Deed c s (.timer session (.sleeping wakeAt)) ⟨s, .timer session (.cycling .ready), [], []⟩
  /-- A scheduled cycle is over. -/
  | scheduledOver {session : Nat} {outcome : Outcome} :
      Deed c s (.timer session (.cycling (.ended outcome)))
        ⟨s, .timer session .checking, [], [.note (.scheduledCycle outcome)]⟩

/-- A piece of a cycle is a step of the cycle. -/
theorem Owner.deed_of_piece (owner : Owner) {c : Context} {s : State} {cycle : Cycle} {p : Piece}
    (h : cycle.piece c s owner.task = some p) : Deed c s (owner.task cycle) p := by
  obtain ⟨⟨state, next, effects⟩, hstep, rfl⟩ := Option.map_eq_some_iff.mp h
  exact .cycle rfl (Cycle.step_eq_some_iff.mp hstep)

theorem Start.deed_of_piece {c : Context} {s : State} {phase : Start} {p : Piece}
    (h : phase.piece c s = some p) : Deed c s (.start phase) p := by
  cases phase with
  | entering o =>
      rcases Bool.eq_false_or_eq_true s.running with hrun | hstop
      · rw [piece, State.enter_of_running hrun] at h
        cases Option.some.inj h
        exact .refuse hrun
      · rw [piece, State.enter_of_stopped hstop] at h
        cases Option.some.inj h
        exact .enter hstop
  | cycling session cycle =>
      cases cycle with
      | ended outcome =>
          cases Option.some.inj h
          exact .firstOver
      | ready | waiting | answered | showing =>
          simp only [piece] at h
          exact Owner.deed_of_piece (.start session) h
  | arming session =>
      by_cases hawaits : s.awaitsTimer session = true
      · simp only [piece, State.arm_of_awaits hawaits, if_true] at h
        cases Option.some.inj h
        exact .arm hawaits
      · simp only [piece, State.arm_of_not_awaits hawaits, Bool.false_eq_true, if_false] at h
        cases Option.some.inj h
        exact .pass hawaits
  | leaving session =>
      by_cases hawaits : s.awaitsTimer session = true
      · simp only [piece, State.rollBack_of_awaits hawaits] at h
        cases Option.some.inj h
        exact .undo .returns hawaits
      · simp only [piece, State.rollBack_of_not_awaits hawaits] at h
        cases Option.some.inj h
        exact .release .returns hawaits
  | cancelled session =>
      by_cases hawaits : s.awaitsTimer session = true
      · simp only [piece, State.rollBack_of_awaits hawaits] at h
        cases Option.some.inj h
        exact .undo .vanishes hawaits
      · simp only [piece, State.rollBack_of_not_awaits hawaits] at h
        cases Option.some.inj h
        exact .release .vanishes hawaits
  | returned => exact absurd h (Option.some_ne_none p).symm

theorem Timer.deed_of_piece {c : Context} {s : State} {session : Nat} {phase : Timer} {p : Piece}
    (h : phase.piece c s session = some p) : Deed c s (.timer session phase) p := by
  cases phase with
  | spawned | checking =>
      simp only [piece] at h
      split at h
      · split at h
        · rename_i hinterval
          obtain ⟨hrun, hsession, rfl⟩ := State.timerInterval_eq_some_iff.mp hinterval
          cases Option.some.inj h
          exact .lieDown (by simp only [reduceCtorEq, or_true, true_or]) hrun hsession
        · rename_i hnone
          cases Option.some.inj h
          exact .retire (by constructor) (Or.inr (State.timerInterval_eq_none_iff.mp hnone))
      · rename_i hdead
        cases Option.some.inj h
        exact .retire (by constructor) (Or.inl (Bool.eq_false_iff.mpr hdead))
  | sleeping wakeAt =>
      simp only [piece] at h
      split at h
      · rename_i hawake
        split at h
        · rename_i halive
          cases Option.some.inj h
          exact .wake hawake halive
        · rename_i hdead
          cases Option.some.inj h
          exact .retire (.asleep hawake) (Or.inl (Bool.eq_false_iff.mpr hdead))
      · exact absurd h (Option.some_ne_none p).symm
  | cycling cycle =>
      cases cycle with
      | ended outcome =>
          cases Option.some.inj h
          exact .scheduledOver
      | ready | waiting | answered | showing =>
          simp only [piece] at h
          exact Owner.deed_of_piece (.timer session) h
  | ended => exact absurd h (Option.some_ne_none p).symm

/-- A piece of a task does one of the things in the list. -/
theorem Task.deed_of_piece {c : Context} {s : State} {t : Task} {p : Piece}
    (h : t.piece c s = some p) : Deed c s t p := by
  cases t with
  | start phase => exact Start.deed_of_piece h
  | poll cycle => exact Owner.deed_of_piece .poll h
  | timer session phase => exact Timer.deed_of_piece h
  | gone => exact absurd h nofun

/-- A start that begins is refused by a running poller, and opens a session of a stopped one. -/
theorem Deed.of_entering {c : Context} {s : State} {o : Options} {p : Piece}
    (h : Deed c s (.start (.entering o)) p) :
    (s.running = true ∧ p = ⟨s, .start .returned, [], []⟩) ∨
    (s.running = false ∧
      p.state =
        { s with config := (s.config.merge o).config, running := true, session := s.session + 1 } ∧
      p.task = .start (.cycling (s.session + 1) .ready)) := by
  cases h with
  | refuse hrun => exact Or.inl ⟨hrun, rfl⟩
  | enter hstop => exact Or.inr ⟨hstop, rfl, rfl⟩
  | @cycle owner _ _ _ _ _ ht => cases owner <;> exact absurd ht nofun
  | undo hphase | release hphase => exact absurd hphase nofun

/-! ## What others do to a task -/

/-- A reply stands in the cycle that waited for it. -/
theorem Task.answered_of_deliver {t next : Task} {reply : Backend.Reply}
    (h : t.deliver reply = some next) :
    ∃ owner session endpoint, t = Owner.task owner (.waiting session endpoint) ∧
      next = Owner.task owner (.answered session endpoint reply) := by
  obtain ⟨owner, cycle, rfl⟩ := Task.eq_task_of_deliver h
  rw [owner.deliver_task] at h
  obtain ⟨after, hafter, rfl⟩ := Option.map_eq_some_iff.mp h
  cases cycle with
  | waiting session endpoint =>
      cases hafter
      exact ⟨owner, session, endpoint, rfl, rfl⟩
  | ready | answered | showing | ended => exact absurd hafter nofun

/-- Of a task that is dropped nothing is left, or the guard of a start. -/
theorem Task.dropped_cases (t : Task) :
    t.dropped = .gone ∨ ∃ session, t.dropped = .start (.cancelled session) := by
  cases t with
  | start phase =>
      cases phase with
      | cycling session => exact Or.inr ⟨session, rfl⟩
      | entering | arming | leaving | cancelled | returned => exact Or.inl rfl
  | poll | timer | gone => exact Or.inl rfl

/-! ## What is seen of it -/

/-- What an effect means for the running periods of a poller. -/
inductive Effect.Kind where
  /-- A start took effect. -/
  | start
  /-- A stop or the guard of a start ended the running period. -/
  | halt
  /-- The backend was asked. -/
  | request
  /-- A timer was created. -/
  | timer
  | other
  deriving DecidableEq, Repr

/-- The kind of an effect. -/
def Effect.kind : Effect → Effect.Kind
  | .note (.started ..) => .start
  | .note .stopped | .note .startCancelled => .halt
  | .request .. => .request
  | .spawned _ => .timer
  | _ => .other

/-- The notes of a merge mean nothing for the running periods. -/
theorem State.kind_of_mem_mergeNotes {m : Merged} {x : Effect}
    (h : x ∈ System.notes (mergeNotes m)) : x.kind = .other := by
  unfold mergeNotes at h
  split at h
  · rw [List.mem_singleton.mp h]
    rfl
  · exact absurd h List.not_mem_nil

/-- A step of a cycle begins a request in the session that runs, or leaves everything but the
history alone and is not seen by callers and backend. -/
theorem Cycle.Step.asks_or_silent {hint : String} {now place : Nat} {s state : State}
    {cycle next : Cycle} {effects : List Effect}
    (h : Cycle.Step hint now place s cycle (state, next, effects)) :
    (cycle = .ready ∧ next = .waiting s.session s.config.endpoint ∧ s.running = true ∧
      (∀ last, s.lastCycle = some last → ¬ Duration.between last now < debounceWindow) ∧
      state = { s with lastCycle := some now } ∧ effects = [.request place s.config.endpoint]) ∨
    ((∀ x ∈ effects, x.kind = .other) ∧ state = { s with seen := state.seen }) := by
  cases h with
  | request hrun hlate => exact Or.inl ⟨rfl, rfl, hrun, hlate, rfl, rfl⟩
  | notRunning | processed => exact Or.inr ⟨fun x hx => absurd hx List.not_mem_nil, rfl⟩
  | debounced | fetchFailed | discarded | shown =>
      refine Or.inr ⟨fun x hx => ?_, rfl⟩
      rw [List.mem_singleton.mp hx]
      rfl
  | taken hrun hsession =>
      rw [Section.apply_closeCycle_of_current hrun hsession]
      refine Or.inr ⟨fun x hx => ?_, rfl⟩
      unfold Cycle.pruneNotes at hx
      split at hx
      · exact absurd hx List.not_mem_nil
      · rw [List.mem_singleton.mp hx]
        rfl

namespace System

/-- The task at a place behind a piece is what the piece made of it, or was there before, or was
created by the piece. -/
theorem task?_leave_eq_some {s : System} {id place : Nat} {slot : Slot} {p : Piece} {t : Task}
    (hslot : s.slots[id]? = some slot)
    (hp : slot.task.piece (s.context id) s.state = some p)
    (h : (s.leave id p).task? place = some t) :
    (place = id ∧ t = p.task) ∨ (place ≠ id ∧ s.task? place = some t) ∨
      (place = s.slots.length ∧ p.spawned = [t]) := by
  by_cases hplace : place = id
  · rw [hplace, task?_leave_self hslot] at h
    exact Or.inl ⟨hplace, (Option.some.inj h).symm⟩
  · refine Or.inr ?_
    obtain ⟨found, hfound, rfl⟩ := task?_eq_some_iff.mp h
    rcases Task.spawned_of_piece hp with hspawned | ⟨session, hspawned⟩
    · rw [slots_leave_of_spawned_nil hspawned, getElem?_setTask_ne hplace] at hfound
      exact Or.inl ⟨hplace, task?_eq_some_iff.mpr ⟨found, hfound, rfl⟩⟩
    · rw [slots_leave_of_spawned hspawned, getElem?_addTask_eq_some_iff, length_setTask,
        getElem?_setTask_ne hplace] at hfound
      rcases hfound with hold | ⟨hnew, rfl⟩
      · exact Or.inl ⟨hplace, task?_eq_some_iff.mpr ⟨found, hold, rfl⟩⟩
      · exact Or.inr ⟨hnew, hspawned⟩

/-- A step of a task is one of the deeds of the task. -/
theorem deed_of_step {s t : System} {id : Nat} {task : Task} {told : List Effect}
    (htask : s.task? id = some task) (h : s.apply (.step id) = some (t, told)) :
    ∃ p, Deed (s.context id) s.state task p ∧ t = (s.leave id p).reap ∧ told = p.effects ∧
      t.task? id = some p.task := by
  obtain ⟨u, hact, rfl⟩ := apply_eq_some_iff.mp h
  obtain ⟨slot, p, hslot, _, hp, rfl, rfl⟩ := step_eq_some_iff.mp hact
  obtain ⟨slot', hslot', rfl⟩ := task?_eq_some_iff.mp htask
  cases Option.some.inj (hslot.symm.trans hslot')
  refine ⟨p, Task.deed_of_piece hp, rfl, rfl, ?_⟩
  rw [task?_reap, task?_leave_self hslot]

/-- A task that holds the poller behind its piece keeps it from being given up. -/
theorem reap_leave_of_holdsPoller {s : System} {id : Nat} {slot : Slot} {p : Piece}
    (hslot : s.slots[id]? = some slot) (hold : p.task.holdsPoller = true) :
    (s.leave id p).reap = s.leave id p := by
  have htask : (s.leave id p).task? id = some p.task := task?_leave_self hslot
  obtain ⟨slot', hslot', htask'⟩ := task?_eq_some_iff.mp htask
  rw [← htask'] at hold
  exact reap_of_alive (isAlive_of_holdsPoller hslot' hold)

/-- What a transition does at a place: the task there before and behind it, if there is one. -/
inductive Fate (s : System) (e : Event) (effects : List Effect) (place : Nat) :
    Option Task → Option Task → Prop where
  | kept {x : Option Task} (he : e ≠ .step place) : Fate s e effects place x x
  /-- A call begins. -/
  | called {t : Task}
      (ht : (e = .poll ∧ t = .poll .ready) ∨
        ∃ options, e = .start options ∧ t = .start (.entering options)) :
      Fate s e effects place none (some t)
  /-- A start leaves a timer behind. -/
  | spawned {id session : Nat} (he : e = .step id) (hplace : id ≠ place)
      (hnew : place = s.slots.length)
      (hstart : s.task? id = some (.start (.arming session)))
      (hawaits : s.state.awaitsTimer session = true) :
      Fate s e effects place none (some (.timer session .spawned))
  | stepped {slot : Slot} {p : Piece} (he : e = .step place) (hslot : s.slots[place]? = some slot)
      (hfree : (slot.aborted && slot.task.isSuspended) = false)
      (hp : slot.task.piece (s.context place) s.state = some p) (heffects : effects = p.effects) :
      Fate s e effects place (some slot.task) (some p.task)
  | delivered {t next : Task} {reply : Backend.Reply} (he : e = .deliver place reply)
      (hnext : t.deliver reply = some next) : Fate s e effects place (some t) (some next)
  | dropped {t : Task} (he : e = .drop place) (hsuspended : t.isSuspended = true) :
      Fate s e effects place (some t) (some t.dropped)

theorem fate_of_addTask {s : System} {e : Event} {effects : List Effect} {new : Task}
    (hnew : (e = .poll ∧ new = .poll .ready) ∨
      ∃ options, e = .start options ∧ new = .start (.entering options)) (place : Nat) :
    s.Fate e effects place (s.task? place) ((s.addTask new).task? place) := by
  have he : e ≠ .step place := by
    rcases hnew with ⟨rfl, _⟩ | ⟨_, rfl, _⟩ <;> exact nofun
  cases ht : s.task? place with
  | some t =>
      rw [task?_addTask ht]
      exact .kept he
  | none =>
      cases hu : (s.addTask new).task? place with
      | none => exact .kept he
      | some t =>
          obtain ⟨slot, hslot, rfl⟩ := task?_eq_some_iff.mp hu
          rcases getElem?_addTask_eq_some_iff.mp hslot with hold | ⟨_, rfl⟩
          · exact absurd (ht.symm.trans (task?_eq_some_iff.mpr ⟨slot, hold, rfl⟩)) nofun
          · exact .called hnew

theorem fate_of_leave {s : System} {id : Nat} {slot : Slot} {p : Piece}
    (hslot : s.slots[id]? = some slot) (hfree : (slot.aborted && slot.task.isSuspended) = false)
    (hp : slot.task.piece (s.context id) s.state = some p) (place : Nat) :
    s.Fate (.step id) p.effects place (s.task? place) ((s.leave id p).task? place) := by
  have htask : s.task? id = some slot.task := task?_eq_some_iff.mpr ⟨slot, hslot, rfl⟩
  by_cases hplace : place = id
  · rw [hplace, htask, task?_leave_self hslot]
    exact .stepped rfl hslot hfree hp rfl
  · have hother : Event.step id ≠ .step place := fun h => hplace (Event.step.inj h).symm
    cases ht : s.task? place with
    | some t =>
        rw [task?_leave_ne p hplace ht]
        exact .kept hother
    | none =>
        cases hu : (s.leave id p).task? place with
        | none => exact .kept hother
        | some t =>
            rcases task?_leave_eq_some hslot hp hu with ⟨hself, _⟩ | ⟨_, hold⟩ |
              ⟨hnew, hspawned⟩
            · exact absurd hself hplace
            · exact absurd (ht.symm.trans hold) nofun
            · have hdeed := Task.deed_of_piece hp
              generalize slot.task = task at hdeed htask
              cases hdeed with
              | arm hawaits =>
                  cases hspawned
                  exact .spawned rfl (fun h => hplace h.symm) hnew htask hawaits
              | refuse | enter | cycle | firstOver | pass | undo | release | lieDown | retire
              | wake | scheduledOver => exact absurd hspawned nofun

/-- What a transition does at a place is one of these things. -/
theorem fate_of_act {s u : System} {e : Event} {effects : List Effect}
    (h : s.act e = some (u, effects)) (place : Nat) :
    s.Fate e effects place (s.task? place) (u.task? place) := by
  cases act_eq_some_iff.mp h with
  | @start options => exact fate_of_addTask (Or.inr ⟨options, rfl, rfl⟩) place
  | poll => exact fate_of_addTask (Or.inl ⟨rfl, rfl⟩) place
  | step hslot hfree hp => exact fate_of_leave hslot hfree hp place
  | @deliver id reply slot next hslot hnext =>
      by_cases hplace : place = id
      · have htask : s.task? id = some slot.task := task?_eq_some_iff.mpr ⟨slot, hslot, rfl⟩
        rw [hplace, task?_setTask_self hslot, htask]
        exact .delivered rfl hnext
      · rw [task?_setTask_ne hplace]
        exact .kept nofun
  | @drop id slot hslot hsuspended =>
      by_cases hplace : place = id
      · have htask : s.task? id = some slot.task := task?_eq_some_iff.mpr ⟨slot, hslot, rfl⟩
        rw [hplace, task?_setTask_self hslot, htask]
        exact .dropped rfl hsuspended
      · rw [task?_setTask_ne hplace]
        exact .kept nofun
  | abort =>
      rw [task?_markAborted]
      exact .kept nofun
  | stop =>
      rw [task?_stop]
      exact .kept nofun
  | configure | clearHistory | tick | retain | release => exact .kept nofun

theorem fate_of_apply {s t : System} {e : Event} {effects : List Effect}
    (h : s.apply e = some (t, effects)) (place : Nat) :
    s.Fate e effects place (s.task? place) (t.task? place) := by
  obtain ⟨u, hact, rfl⟩ := apply_eq_some_iff.mp h
  rw [task?_reap]
  exact fate_of_act hact place

end System

end AlarmMonitor.Polling
