import AlarmMonitor.Proofs.Polling.Delivery
import AlarmMonitor.Proofs.Polling.Schedule
import AlarmMonitor.Proofs.Polling.Rest

/-!
# Cycles that leave no trace

A cycle that takes no reply in leaves the shared state as it found it, except for the clock of
requests, and shows nothing.

* `System.Traceless`: a transition with no trace but in the log;
* `System.traceless_of_stays`: what happens to the task of such a cycle leaves no trace;
* `System.Nears`: from the end of a cycle to the next cycle of the timer;
* `System.taken_of_mem_seen`: a key comes into the history only where a reply is taken in;
* `System.unprocessed_without_trace`: what comes of it over a run.
-/

set_option autoImplicit false

namespace AlarmMonitor.Polling

open AlarmMonitor.Alarm (Key Record)
open History (newRecords)

/-! ## Steps without a trace -/

/-- Did the cycle end at its beginning? -/
def Cycle.isDeclined : Cycle → Bool
  | .ended .notRunning | .ended .debounced => true
  | _ => false

/-- A step of a cycle that comes to nothing leaves the state alone and is seen in the log only. -/
theorem Cycle.Step.traceless {hint : String} {now place : Nat} {s state : State}
    {cycle next : Cycle} {told : List Effect} (h : Step hint now place s cycle (state, next, told))
    (hnext : next.isDeclined = true ∨ (cycle.isFruitless = true ∧ next.isFruitless = true)) :
    state = s ∧ ∀ x ∈ told, x.isSilent = true := by
  cases h with
  | notRunning => exact ⟨rfl, fun x hx => absurd hx List.not_mem_nil⟩
  | debounced | fetchFailed | discarded =>
      refine ⟨rfl, fun x hx => ?_⟩
      rw [List.mem_singleton.mp hx]
      rfl
  | request => rcases hnext with hnext | ⟨hcycle, _⟩ <;> contradiction
  | taken | shown | processed => rcases hnext with hnext | ⟨_, hnext⟩ <;> contradiction

namespace System

/-- The transition has left the state of the poller alone, and has neither asked the backend nor
shown a text. -/
def Traceless (s t : System) (told : List Effect) : Prop :=
  t.HasState s.state ∧ ∀ x ∈ told, x.isSilent = true

/-- All that happens to the task at the place in the run leaves no trace. -/
def TracelessAt (id : Nat) (s : System) (events : List Event) : Prop :=
  ∀ early e late u v seen told, events = early ++ e :: late → e.task? = some id →
    s.run early = some (u, seen) → u.apply e = some (v, told) → u.Traceless v told

/-- An answer leaves no trace, and neither does a task that is told to end or dropped. -/
theorem traceless_of_not_step {s t : System} {e : Event} {told : List Effect} {id : Nat}
    (htask : e.task? = some id) (he : e ≠ .step id) (h : s.apply e = some (t, told)) :
    s.Traceless t told := by
  obtain ⟨u, hact, rfl⟩ := apply_eq_some_iff.mp h
  cases act_eq_some_iff.mp hact with
  | @step other =>
      cases htask
      exact absurd rfl he
  | deliver | drop => exact ⟨hasState_reap _, fun x hx => absurd hx List.not_mem_nil⟩
  | abort =>
      refine ⟨hasState_reap _, fun x hx => ?_⟩
      rw [List.mem_singleton.mp hx]
      rfl
  | start | poll | configure | stop | clearHistory | tick | retain | release =>
      exact absurd htask nofun

/-- A cycle that comes to nothing and stays so leaves no trace. -/
theorem traceless_of_stays {P : Cycle → Prop} {s : System} {id : Nat} {events : List Event}
    (hstays : s.Stays P id events)
    (hP : ∀ cycle next, P cycle → P next →
      next.isDeclined = true ∨ (cycle.isFruitless = true ∧ next.isFruitless = true)) :
    s.TracelessAt id events := by
  rintro early e late u v seen told rfl htask hearly happly
  by_cases he : e = .step id
  · have hbehind := hstays.behind hearly
    obtain ⟨cycle, hcycle, hin⟩ := hbehind.here
    obtain ⟨next, hnext, hstill⟩ := (hbehind.tail happly).here
    have hnothing := hP cycle next hin hstill
    cases cycleOrigin_of_apply happly hnext with
    | ready => rcases hnothing with hnext | ⟨_, hnext⟩ <;> exact absurd hnext nofun
    | kept hother => exact absurd he hother
    | answered hother =>
        subst hother
        exact absurd he nofun
    | stepped _ hold hstep hstate =>
        cases hold.symm.trans hcycle
        obtain ⟨hsame, hsilent⟩ := hstep.traceless hnothing
        exact ⟨hsame ▸ hstate, hsilent⟩
  · exact traceless_of_not_step htask he happly

/-- A cycle that ended at its beginning has left no trace. -/
theorem declined_of_run {hint : String} {events : List Event} {t : System} {effects : List Effect}
    {id : Nat} {cycle : Cycle} (hrun : (new hint).run events = some (t, effects))
    (hcycle : t.cycle? id = some cycle) (hdeclined : cycle.isDeclined = true) :
    ∃ before after s early u told later, events = before ++ .step id :: after ∧
      (new hint).run before = some (s, early) ∧ s.cycle? id = some .ready ∧
      s.apply (.step id) = some (u, told) ∧ s.Traceless u told ∧ u.run after = some (t, later) ∧
      u.TracelessAt id after := by
  obtain ⟨before, e, after, s, early, u, told, later, rfl, hbefore, hentry, hafter, hout, hstays⟩ :=
    entered_of_run (P := fun cycle => cycle.isDeclined = true) hrun hcycle hdeclined
  obtain ⟨next, hnext, hin⟩ := hstays.here
  have hbehind : u.TracelessAt id after := traceless_of_stays hstays fun _ _ _ h => Or.inl h
  cases cycleOrigin_of_apply hentry hnext with
  | ready | answered => exact absurd hin nofun
  | kept _ hold => exact absurd hin (hout _ hold)
  | stepped he hold hstep hstate =>
      subst he
      obtain ⟨hsame, hsilent⟩ := hstep.traceless (Or.inl hin)
      have hready : s.cycle? id = some .ready := by
        cases hstep with
        | notRunning | debounced => exact hold
        | request | fetchFailed | discarded | taken | shown | processed =>
            exact absurd hin nofun
      exact ⟨before, after, s, early, u, told, later, rfl, hbefore, hready, hentry,
        ⟨hsame ▸ hstate, hsilent⟩, hafter, hbehind⟩

/-- A cycle that has taken nothing in has begun a request, and has left no other trace. -/
theorem fruitless_of_run {hint : String} {events : List Event} {t : System} {effects : List Effect}
    {id : Nat} {cycle : Cycle} (hrun : (new hint).run events = some (t, effects))
    (hcycle : t.cycle? id = some cycle) (hfruitless : cycle.isFruitless = true) :
    ∃ before after s early u later, events = before ++ .step id :: after ∧
      (new hint).run before = some (s, early) ∧ s.cycle? id = some .ready ∧
      s.apply (.step id) = some (u, [.request id s.state.config.endpoint]) ∧
      u.state = { s.state with lastCycle := some s.now } ∧ u.run after = some (t, later) ∧
      u.TracelessAt id after := by
  obtain ⟨before, after, s, early, u, later, hevents, hbefore, hready, hasking, hstate, hafter,
    hstays⟩ := asked_of_run (P := fun cycle => cycle.isFruitless = true) (fun _ h => h)
      Cycle.isFruitless_of_isWaiting hrun hcycle hfruitless
  exact ⟨before, after, s, early, u, later, hevents, hbefore, hready, hasking, hstate, hafter,
    traceless_of_stays hstays fun _ _ hcycle hnext => Or.inr ⟨hcycle, hnext⟩⟩

end System

/-! ## From one cycle of a timer to the next -/

/-- A timer between two cycles, after so many of its steps. -/
inductive Timer.Nears : Nat → Timer → Prop where
  | ended {outcome : Outcome} : Nears 0 (.cycling (.ended outcome))
  /-- A timer that has not begun has no cycle behind it. -/
  | unbegun : Nears 1 .spawned
  | again : Nears 1 .checking
  | asleep {wakeAt : Nat} : Nears 2 (.sleeping wakeAt)

/-- Can the timer take its next step as soon as it runs? -/
def Timer.isAwake (now : Nat) : Timer → Bool
  | .sleeping wakeAt => wakeAt ≤ now
  | _ => true

namespace System

/-- The timer at the place is between two cycles, or has come to its end. -/
def Nears (s : System) (id session k : Nat) : Prop :=
  (∃ phase, s.task? id = some (.timer session phase) ∧ phase.Nears k) ∨
    s.task? id = some (.timer session .ended) ∨ s.task? id = some .gone

section

variable {s t : System} {id session k : Nat}

/-- Nothing but a step of its own brings a timer nearer to its next cycle. -/
theorem Nears.apply_ne {e : Event} {told : List Effect} (hs : s.Nears id session k)
    (he : e ≠ .step id) (h : s.apply e = some (t, told)) : t.Nears id session k := by
  have hfate := fate_of_apply h id
  unfold Nears at hs ⊢
  generalize s.task? id = before at hs hfate
  generalize t.task? id = behind at hfate ⊢
  cases hfate with
  | kept => exact hs
  | called | spawned => rcases hs with ⟨_, htask, _⟩ | htask | htask <;> exact absurd htask nofun
  | stepped hstep => exact absurd hstep he
  | delivered _ hnext =>
      rcases hs with ⟨phase, htask, hphase⟩ | htask | htask
      · cases htask
        cases hphase <;> exact absurd hnext nofun
      · cases htask
        exact absurd hnext nofun
      · cases htask
        exact absurd hnext nofun
  | dropped =>
      rcases hs with ⟨phase, htask, _⟩ | htask | htask <;> (cases htask; exact Or.inr (Or.inr rfl))

/-- A step brings a timer that does not sleep nearer to its next cycle, unless it ends. -/
theorem Nears.step {told : List Effect} (hs : s.Nears id session k) (hk : k < 2)
    (h : s.apply (.step id) = some (t, told)) : t.Nears id session (k + 1) := by
  rcases hs with ⟨phase, htask, hphase⟩ | htask | htask
  · obtain ⟨p, hdeed, _, _, hnext⟩ := deed_of_step htask h
    unfold Nears
    rw [hnext]
    cases hdeed with
    | lieDown hwhere =>
        rcases hwhere with rfl | rfl
        · cases hphase
          exact Or.inl ⟨_, rfl, .asleep⟩
        · cases hphase
          exact Or.inl ⟨_, rfl, .asleep⟩
    | retire => exact Or.inr (Or.inl rfl)
    | wake =>
        cases hphase
        exact absurd hk (Nat.lt_irrefl 2)
    | scheduledOver =>
        cases hphase
        exact Or.inl ⟨_, rfl, .again⟩
    | @cycle owner _ cycle _ _ _ ht hstep =>
        cases owner with
        | timer =>
            cases ht
            cases hphase
            exact absurd hstep nofun
        | start | poll => exact absurd ht nofun
  · obtain ⟨p, hdeed, _⟩ := deed_of_step htask h
    cases hdeed with
    | lieDown hphase => rcases hphase with hphase | hphase <;> exact absurd hphase nofun
    | retire hphase => exact absurd hphase nofun
    | @cycle owner _ _ _ _ _ ht => cases owner <;> exact absurd ht nofun
  · obtain ⟨p, hdeed, _⟩ := deed_of_step htask h
    cases hdeed with
    | @cycle owner _ _ _ _ _ ht => cases owner <;> exact absurd ht nofun

theorem Nears.run {events : List Event} {effects : List Effect} (hs : s.Nears id session k)
    (hbound : k + events.count (.step id) ≤ 2) (h : s.run events = some (t, effects)) :
    t.Nears id session (k + events.count (.step id)) := by
  induction events generalizing s k effects with
  | nil =>
      cases h
      exact hs
  | cons e rest ih =>
      obtain ⟨u, told, later, happly, hrest, _⟩ := run_cons_eq_some_iff.mp h
      by_cases he : e = .step id
      · subst he
        rw [List.count_cons_self] at hbound ⊢
        have hcount : k + 1 + rest.count (.step id) = k + (rest.count (.step id) + 1) := by omega
        rw [← hcount] at hbound ⊢
        exact ih (hs.step (by omega) happly) hbound hrest
      · rw [List.count_cons_of_ne he] at hbound ⊢
        exact ih (hs.apply_ne he happly) hbound hrest

/-- The timer of a poller was not told to end and has not come to its end. -/
theorem exists_slot_of_timer (hreach : Reachable s)
    (htimer : s.state.timer = some ⟨id, session⟩) :
    ∃ slot, s.slots[id]? = some slot ∧ slot.aborted = false ∧ slot.task.role = .timer session := by
  have hrole : s.role id = .timer session :=
    (lifecycle_of_reachable hreach).role_timer_iff.mpr htimer
  obtain ⟨slot, hslot, hslotRole⟩ := exists_slot_of_role hrole nofun
  obtain ⟨htask, hfree⟩ := Slot.role_eq_timer_iff.mp hslotRole
  exact ⟨slot, hslot, hfree, htask⟩

/-- The timer of a poller takes its steps. -/
theorem exists_step_of_timer (hreach : Reachable s) (htimer : s.state.timer = some ⟨id, session⟩)
    {phase : Timer} {p : Piece} (htask : s.task? id = some (.timer session phase))
    (hp : phase.piece (s.context id) s.state session = some p) :
    ∃ t, s.apply (.step id) = some (t, p.effects) ∧ t.HasState p.state ∧
      t.task? id = some p.task := by
  obtain ⟨slot, hslot, hfree, _⟩ := exists_slot_of_timer hreach htimer
  obtain ⟨_, hslot', hin⟩ := task?_eq_some_iff.mp htask
  cases Option.some.inj (hslot.symm.trans hslot')
  have hact : s.act (.step id) = some (s.leave id p, p.effects) :=
    step_eq_some_iff.mpr
      ⟨slot, p, hslot, by rw [hfree, Bool.false_and], by rw [hin]; exact hp, rfl, rfl⟩
  refine ⟨_, apply_eq_some_iff.mpr ⟨_, hact, rfl⟩, hasState_reap _, ?_⟩
  rw [task?_reap, task?_leave_self hslot]

/-- The timer of a poller that is between two cycles comes nearer to the next one, and from the end
of its sleep on begins it. -/
theorem Nears.exists_step (hs : s.Nears id session k) (hreach : Reachable s)
    (htimer : s.state.timer = some ⟨id, session⟩) :
    ∃ phase, s.task? id = some (.timer session phase) ∧ phase.Nears k ∧
      (phase.isAwake s.now = true → ∃ t told next, s.apply (.step id) = some (t, told) ∧
        s.Traceless t told ∧ t.task? id = some (.timer session next) ∧
        (next.Nears (k + 1) ∨ next = .cycling .ready) ∧
        ∀ wakeAt, next = .sleeping wakeAt →
          wakeAt = s.now + s.state.config.interval.nanos) := by
  have hsound := sound_of_reachable hreach
  obtain ⟨slot, hslot, _, hrole⟩ := exists_slot_of_timer hreach htimer
  have hfound : s.task? id = some slot.task := task?_eq_some_iff.mpr ⟨slot, hslot, rfl⟩
  have halive : s.isAlive = true := by
    rcases Bool.eq_false_or_eq_true s.isAlive with halive | hdead
    · exact halive
    · rw [timer_of_given_up hreach hdead] at htimer
      cases htimer
  have hinterval : s.state.timerInterval session = some s.state.config.interval :=
    State.timerInterval_eq_some_iff.mpr
      ⟨hsound.running_of_timer htimer, (hsound.timer_session _ htimer).symm, rfl⟩
  rcases hs with ⟨phase, htask, hphase⟩ | htask | htask
  · refine ⟨phase, htask, hphase, fun hawake => ?_⟩
    cases hphase with
    | ended =>
        obtain ⟨t, happly, hstate, hnext⟩ := exists_step_of_timer hreach htimer htask rfl
        refine ⟨t, _, _, happly, ⟨hstate, fun x hx => ?_⟩, hnext, Or.inl .again,
          fun _ hsleeping => Timer.noConfusion hsleeping⟩
        rw [List.mem_singleton.mp hx]
        rfl
    | unbegun | again =>
        have hpiece : Timer.checking.piece (s.context id) s.state session = some ⟨s.state,
            .timer session (.sleeping (s.now + s.state.config.interval.nanos)), [], []⟩ := by
          have hheld : (s.context id).alive = true := halive
          simp only [Timer.piece, if_pos hheld, hinterval]
          rfl
        obtain ⟨t, happly, hstate, hnext⟩ := exists_step_of_timer hreach htimer htask hpiece
        exact ⟨t, _, _, happly, ⟨hstate, fun x hx => absurd hx List.not_mem_nil⟩, hnext,
          Or.inl .asleep, fun _ hsleeping => (Timer.sleeping.inj hsleeping).symm⟩
    | @asleep wakeAt =>
        have hpiece : (Timer.sleeping wakeAt).piece (s.context id) s.state session =
            some ⟨s.state, .timer session (.cycling .ready), [], []⟩ := by
          have hnow : wakeAt ≤ (s.context id).now := of_decide_eq_true hawake
          have hheld : (s.context id).alive = true := halive
          simp only [Timer.piece]
          rw [if_pos hnow, if_pos hheld]
        obtain ⟨t, happly, hstate, hnext⟩ := exists_step_of_timer hreach htimer htask hpiece
        exact ⟨t, _, _, happly, ⟨hstate, fun x hx => absurd hx List.not_mem_nil⟩, hnext,
          Or.inr rfl, fun _ hsleeping => Timer.noConfusion hsleeping⟩
  · rw [Option.some.inj (hfound.symm.trans htask)] at hrole
    cases hrole
  · rw [Option.some.inj (hfound.symm.trans htask)] at hrole
    cases hrole

/-- A start that is not suspended takes its steps. -/
theorem step_of_start {phase : Start} {p : Piece} (htask : s.task? id = some (.start phase))
    (hgoes : (Task.start phase).isSuspended = false)
    (hp : phase.piece (s.context id) s.state = some p) (hold : p.task.holdsPoller = true) :
    s.apply (.step id) = some (s.leave id p, p.effects) := by
  obtain ⟨slot, hslot, hin⟩ := task?_eq_some_iff.mp htask
  have hact : s.act (.step id) = some (s.leave id p, p.effects) :=
    step_eq_some_iff.mpr ⟨slot, p, hslot, by rw [hin, hgoes, Bool.and_false], by rw [hin]; exact hp,
      rfl, rfl⟩
  exact apply_eq_some_iff.mpr ⟨_, hact, (reap_leave_of_holdsPoller hslot hold).symm⟩

/-- A start whose first cycle has ended goes on to install its timer, whatever the outcome. -/
theorem arming_of_start {outcome : Outcome}
    (htask : s.task? id = some (.start (.cycling session (.ended outcome)))) :
    ∃ t, s.apply (.step id) = some (t, [.note (.firstCycle outcome)]) ∧ t.state = s.state ∧
      t.task? id = some (.start (.arming session)) := by
  obtain ⟨slot, hslot, _⟩ := task?_eq_some_iff.mp htask
  exact ⟨_, step_of_start htask rfl rfl rfl, rfl, task?_leave_self hslot⟩

/-- A start installs the timer of its session if the session runs without one. -/
theorem timer_of_arming (htask : s.task? id = some (.start (.arming session)))
    (hawaits : s.state.awaitsTimer session = true) :
    ∃ t, s.apply (.step id) = some (t, [.spawned s.slots.length]) ∧
      t.state = { s.state with timer := some ⟨s.slots.length, session⟩ } ∧
      t.task? s.slots.length = some (.timer session .spawned) := by
  have hpiece : (Start.arming session).piece (s.context id) s.state =
      some ⟨{ s.state with timer := some ⟨s.slots.length, session⟩ }, .start (.leaving session),
        [.timer session .spawned], [.spawned s.slots.length]⟩ := by
    simp only [Start.piece, State.arm_of_awaits hawaits, if_true]
    rfl
  refine ⟨_, step_of_start htask rfl hpiece rfl, rfl, ?_⟩
  refine task?_eq_some_iff.mpr ⟨⟨.timer session .spawned, false⟩, ?_, rfl⟩
  rw [slots_leave_of_spawned rfl]
  exact getElem?_addTask_eq_some_iff.mpr (Or.inr ⟨(length_setTask s id _).symm, rfl⟩)

end

end System

/-! ## Where keys come into the history -/

/-- A piece of a task adds a key only where it takes in a reply with a new record of this key. -/
theorem Deed.taken_of_mem_seen {c : Context} {s : State} {t : Task} {p : Piece} {k : Key}
    (h : Deed c s t p) (hs : s.Sound) (hk : k ∈ p.state.seen.toList) (hnew : k ∉ s.seen.toList) :
    ∃ owner session endpoint body, t = Owner.task owner (.answered session endpoint (.body body)) ∧
      s.running = true ∧ s.session = session ∧
      k ∈ (newRecords s.seen.toList (Alarm.ofBody body)).map (·.key) := by
  cases h with
  | @cycle owner _ _ _ _ _ ht hstep =>
      cases hstep with
      | @taken session endpoint body hrun hsession =>
          rw [Section.apply_closeCycle_of_current hrun hsession] at hk
          have hkeys := History.toList_prune_insertRecords hs.seen_sound hs.seen_bounds
            (Alarm.ofBody body)
          rw [hkeys] at hk
          have hk' := (List.mem_append.mp (History.mem_of_mem_cutToMark hk)).resolve_left hnew
          exact ⟨owner, session, endpoint, body, ht, hrun, hsession, hk'⟩
      | notRunning | debounced | request | fetchFailed | discarded | shown | processed =>
          exact absurd hk hnew
  | undo => exact absurd hk List.not_mem_nil
  | refuse | enter | firstOver | arm | pass | release | lieDown | retire | wake | scheduledOver =>
      exact absurd hk hnew

namespace System

/-- A key comes into the history only where a reply is taken in that has a new record of it. -/
theorem taken_of_mem_seen {s t : System} {e : Event} {told : List Effect} {k : Key}
    (hreach : Reachable s) (h : s.apply e = some (t, told)) (hk : k ∈ t.state.seen.toList)
    (hnew : k ∉ s.state.seen.toList) :
    ∃ id session endpoint body, e = .step id ∧
      s.cycle? id = some (.answered session endpoint (.body body)) ∧ s.state.running = true ∧
      s.state.session = session ∧
      k ∈ (newRecords s.state.seen.toList (Alarm.ofBody body)).map (·.key) := by
  obtain ⟨u, hact, rfl⟩ := apply_eq_some_iff.mp h
  rw [(hasState_reap u).seen_eq] at hk
  cases act_eq_some_iff.mp hact with
  | @step id slot p hslot _ hp =>
      obtain ⟨owner, session, endpoint, body, htask, htaken⟩ :=
        (Task.deed_of_piece hp).taken_of_mem_seen (sound_of_reachable hreach) hk hnew
      have hcycle : s.cycle? id = some (.answered session endpoint (.body body)) :=
        cycle?_eq_some_iff.mpr ⟨owner, task?_eq_some_iff.mpr ⟨slot, hslot, htask⟩⟩
      exact ⟨id, session, endpoint, body, rfl, hcycle, htaken⟩
  | stop =>
      rw [state_stop] at hk
      exact absurd hk List.not_mem_nil
  | clearHistory => exact absurd hk List.not_mem_nil
  | start | poll | deliver | abort | drop | configure | tick | retain | release =>
      exact absurd hk hnew

end System

/-! ## Bodies without alarms -/

/-- The body is no JSON, or it is neither a list of alarms nor an object that has one. -/
def NoList (body : String) : Prop :=
  ∀ v, Json.parse body = some v → (∀ items, v ≠ .array items) ∧
    ∀ members items, v = .object members →
      Json.Value.lookup Alarm.dataField members ≠ some (.array items)

theorem NoList.ofBody_eq {body : String} (h : NoList body) : Alarm.ofBody body = [] := by
  unfold Alarm.ofBody
  cases hparse : Json.parse body with
  | none => rfl
  | some v =>
      obtain ⟨hlist, hdata⟩ := h v hparse
      cases v with
      | array items => exact absurd rfl (hlist items)
      | object members =>
          simp only [Alarm.extract]
          split
          · rename_i items hlookup
            exact absurd hlookup (hdata members items rfl)
          · rfl
      | null | bool | number | string => rfl

namespace System

/-- A body without alarms is taken in without a trace. -/
theorem taken_of_noList {s t : System} {id session : Nat} {endpoint body : String}
    {told : List Effect} (hreach : Reachable s)
    (hcycle : s.cycle? id = some (.answered session endpoint (.body body)))
    (hruns : s.state.running = true) (hsession : s.state.session = session) (hnone : NoList body)
    (h : s.apply (.step id) = some (t, told)) :
    t.cycle? id = some (.showing 0 0 []) ∧ t.state = s.state ∧ told.filterMap Effect.shown? = [] := by
  obtain ⟨hshowing, hstate, _, hsilent⟩ := taken_of_step hreach hcycle hruns hsession h
  have hsmall : s.state.seen.size ≤ s.state.seen.highWater := by
    rw [History.highWater_of_bounds (sound_of_reachable hreach).seen_bounds]
    exact size_of_reachable hreach
  rw [hnone.ofBody_eq] at hshowing hstate
  have hsame : (s.state.seen.insertRecords []).1.prune.1 = s.state.seen := by
    rw [History.insertRecords, History.prune_of_size_le hsmall]
  rw [hsame] at hstate
  exact ⟨hshowing, hstate, hsilent⟩

/-- A cycle without texts ends with its next step. -/
theorem ended_of_showing_nil {s : System} {id fetched surfaced : Nat}
    (hcycle : s.cycle? id = some (.showing fetched surfaced [])) :
    ∃ t, s.apply (.step id) = some (t, []) ∧ t.HasState s.state ∧
      t.cycle? id = some (.ended (.processed fetched surfaced)) := by
  obtain ⟨t, happly⟩ := exists_step_of_cycle hcycle rfl nofun .processed
  obtain ⟨state, next, hstep, hnext, hstate⟩ := step_of_cycle hcycle nofun happly
  cases hstep with
  | processed => exact ⟨t, happly, hstate, hnext⟩

/-- Of a cycle that is dropped in its request nothing is left, and told to end it takes no step. -/
theorem dropped_in_request {s : System} {id : Nat} {cycle : Cycle}
    (hcycle : s.cycle? id = some cycle) (hwaits : cycle.isWaiting = true) :
    (∀ t told, s.apply (.drop id) = some (t, told) →
      s.Traceless t told ∧ t.cycle? id = none) ∧
    (∀ slot, s.slots[id]? = some slot → slot.aborted = true → s.apply (.step id) = none) := by
  obtain ⟨owner, htask⟩ := cycle?_eq_some_iff.mp hcycle
  obtain ⟨slot, hslot, hin⟩ := task?_eq_some_iff.mp htask
  have htarget : (Event.drop id).task? = some id := rfl
  refine ⟨fun t told h => ⟨traceless_of_not_step htarget nofun h, ?_⟩,
    fun other hother haborted => ?_⟩
  · obtain ⟨u, hact, rfl⟩ := apply_eq_some_iff.mp h
    cases act_eq_some_iff.mp hact with
    | drop hslot' =>
        unfold cycle?
        rw [task?_reap, task?_setTask_self hslot']
        exact Task.cycle?_dropped _
  · cases Option.some.inj (hslot.symm.trans hother)
    have hsuspended : slot.task.isSuspended = true := by
      rw [hin]
      cases cycle with
      | waiting | answered => cases owner <;> rfl
      | ready | showing | ended => exact absurd hwaits nofun
    have hact : s.act (.step id) = none := by
      rw [Option.eq_none_iff_forall_not_mem]
      rintro ⟨u, told⟩ h
      obtain ⟨_, _, hslot', hfree, _⟩ := step_eq_some_iff.mp h
      cases Option.some.inj (hslot.symm.trans hslot')
      rw [haborted, hsuspended] at hfree
      exact absurd hfree nofun
    unfold apply
    rw [hact]
    rfl

/-! ## Cycles that take nothing in -/

/-- Over every run and however its transitions interleave:

* a cycle that found the poller stopped or the last request too recent has left the state of the
  poller alone, from its beginning on, and has neither asked the backend nor shown a text;
* a cycle in its request, or whose request failed or was discarded, set the clock of requests where
  it began its request, and nothing else that happened to its task has left a trace;
* dropping such a cycle leaves no trace, and told to end in its request it takes no step any more;
* a start whose first cycle has ended, with any outcome, goes on to install its timer;
* a timer whose cycle has ended, with any outcome, and a new one come to their next cycle as long as
  they are the timer of the poller: the next step can be taken, leaves no trace, and brings them
  nearer;
* a key comes into the history only where a cycle begins to show the text of its record, and this
  cycle goes on until it has shown all its texts, whatever happens to the poller;
* a body without alarms that is taken in changes nothing, and its cycle ends with no record and no
  new one. -/
theorem unprocessed_without_trace :
    (∀ hint events t effects id outcome,
      (new hint).run events = some (t, effects) → t.cycle? id = some (.ended outcome) →
      outcome = .notRunning ∨ outcome = .debounced →
      ∃ before after s early u told later, events = before ++ .step id :: after ∧
        (new hint).run before = some (s, early) ∧ s.cycle? id = some .ready ∧
        s.apply (.step id) = some (u, told) ∧ s.Traceless u told ∧
        u.run after = some (t, later) ∧ u.TracelessAt id after) ∧
    (∀ hint events t effects id cycle,
      (new hint).run events = some (t, effects) → t.cycle? id = some cycle →
      cycle.isWaiting = true ∨ cycle = .ended .fetchFailed ∨ cycle = .ended .discarded →
      ∃ before after s early u later, events = before ++ .step id :: after ∧
        (new hint).run before = some (s, early) ∧ s.cycle? id = some .ready ∧
        s.apply (.step id) = some (u, [.request id s.state.config.endpoint]) ∧
        u.state = { s.state with lastCycle := some s.now } ∧
        u.run after = some (t, later) ∧ u.TracelessAt id after) ∧
    (∀ (s : System) id cycle, s.cycle? id = some cycle → cycle.isWaiting = true →
      (∀ t told, s.apply (.drop id) = some (t, told) →
        s.Traceless t told ∧ t.cycle? id = none) ∧
      (∀ slot, s.slots[id]? = some slot → slot.aborted = true → s.apply (.step id) = none)) ∧
    (∀ (s : System) id session,
      (∀ outcome, s.task? id = some (.start (.cycling session (.ended outcome))) →
        ∃ t, s.apply (.step id) = some (t, [.note (.firstCycle outcome)]) ∧ t.state = s.state ∧
          t.task? id = some (.start (.arming session))) ∧
      (s.task? id = some (.start (.arming session)) → s.state.awaitsTimer session = true →
        ∃ t, s.apply (.step id) = some (t, [.spawned s.slots.length]) ∧
          t.state = { s.state with timer := some ⟨s.slots.length, session⟩ } ∧
          t.task? s.slots.length = some (.timer session .spawned))) ∧
    (∀ (s t : System) id session first k events effects, Reachable s →
      s.task? id = some (.timer session first) → first.Nears k →
      s.run events = some (t, effects) → k + events.count (.step id) ≤ 2 →
      t.state.timer = some ⟨id, session⟩ →
      ∃ phase, t.task? id = some (.timer session phase) ∧
        phase.Nears (k + events.count (.step id)) ∧
        (phase.isAwake t.now = true → ∃ u told next, t.apply (.step id) = some (u, told) ∧
          t.Traceless u told ∧ u.task? id = some (.timer session next) ∧
          (next.Nears (k + events.count (.step id) + 1) ∨ next = .cycling .ready) ∧
          ∀ wakeAt, next = .sleeping wakeAt →
            wakeAt = t.now + t.state.config.interval.nanos)) ∧
    (∀ (s t : System) e told k, Reachable s → s.apply e = some (t, told) →
      k ∈ t.state.seen.toList → k ∉ s.state.seen.toList →
      ∃ (id fetched : Nat) (fresh : List Record), e = .step id ∧ k ∈ fresh.map (·.key) ∧
        t.cycle? id = some (.showing fetched fresh.length (fresh.map (·.render s.hint))) ∧
        ∀ events u effects, t.run events = some (u, effects) →
          events.count (.step id) ≤ fresh.length →
          u.cycle? id = some (.showing fetched fresh.length
            ((fresh.map (·.render s.hint)).drop (events.count (.step id)))) ∧
          t.shownBy id events = (fresh.map (·.render s.hint)).take (events.count (.step id)) ∧
          ∃ v shown, u.apply (.step id) = some (v, shown)) ∧
    (∀ (s t : System) id session endpoint body told, Reachable s →
      s.cycle? id = some (.answered session endpoint (.body body)) → s.state.running = true →
      s.state.session = session → NoList body → s.apply (.step id) = some (t, told) →
      t.state = s.state ∧ told.filterMap Effect.shown? = [] ∧
      ∀ events u effects, t.run events = some (u, effects) → .step id ∉ events →
        ∃ v, u.apply (.step id) = some (v, []) ∧ v.HasState u.state ∧
          v.cycle? id = some (.ended (.processed 0 0))) := by
  refine ⟨?_, ?_, ?_, ?_, ?_, ?_, ?_⟩
  · intro hint events t effects id outcome hrun hcycle houtcome
    refine declined_of_run hrun hcycle ?_
    rcases houtcome with rfl | rfl <;> rfl
  · intro hint events t effects id cycle hrun hcycle hwhere
    refine fruitless_of_run hrun hcycle ?_
    rcases hwhere with hwaits | rfl | rfl
    · exact Cycle.isFruitless_of_isWaiting cycle hwaits
    · rfl
    · rfl
  · intro s id cycle hcycle hwaits
    exact dropped_in_request hcycle hwaits
  · intro s id session
    exact ⟨fun outcome htask => arming_of_start htask, timer_of_arming⟩
  · intro s t id session first k events effects hreach htask hfirst hrun hbound htimer
    have hnears : t.Nears id session (k + events.count (.step id)) :=
      Nears.run (Or.inl ⟨first, htask, hfirst⟩) hbound hrun
    exact hnears.exists_step (hreach.run hrun) htimer
  · intro s t e told k hreach happly hk hnew
    obtain ⟨id, session, endpoint, body, rfl, hcycle, hruns, hsession, hkey⟩ :=
      taken_of_mem_seen hreach happly hk hnew
    obtain ⟨hshowing, _⟩ := taken_of_step hreach hcycle hruns hsession happly
    refine ⟨id, _, _, rfl, hkey, hshowing, fun events u effects hrun hbound => ?_⟩
    refine showing_of_run hshowing hrun ?_
    rw [List.length_map]
    exact hbound
  · intro s t id session endpoint body told hreach hcycle hruns hsession hnone happly
    obtain ⟨hshowing, hstate, hsilent⟩ :=
      taken_of_noList hreach hcycle hruns hsession hnone happly
    refine ⟨hstate, hsilent, fun events u effects hrun hnot => ?_⟩
    have hcount : events.count (.step id) = 0 := List.count_eq_zero.mpr hnot
    obtain ⟨hstill, _⟩ := showing_of_run hshowing hrun (by omega)
    exact ended_of_showing_nil (List.drop_nil ▸ hstill)

/-- The request of a first cycle is refused while the poller is configured anew. -/
def refusedRequest : List Event :=
  [.start .none, .step 0, .tick (.ofMillis 40), .step 0, .configure ⟨some "other", none⟩,
    .tick (.ofMillis 5), .deliver 0 (.failure "refused"), .step 0]

theorem unprocessed_without_trace_of_refusedRequest :
    ∃ t effects, (new "").run refusedRequest = some (t, effects) ∧
      t.cycle? 0 = some (.ended .fetchFailed) ∧ t.state.lastCycle = some 40000000 ∧
      ∃ (before after : List Event) (s u : System), refusedRequest = before ++ .step 0 :: after ∧
        s.cycle? 0 = some .ready ∧ u.state = { s.state with lastCycle := some s.now } ∧
        u.TracelessAt 0 after := by
  have hend : ((new "").run refusedRequest).map (fun r => (r.1.cycle? 0, r.1.state.lastCycle)) =
      some (some (.ended .fetchFailed), some 40000000) := by decide +kernel
  obtain ⟨⟨t, effects⟩, hrun, hpair⟩ := Option.map_eq_some_iff.mp hend
  obtain ⟨hcycle, hclock⟩ := Prod.mk.inj hpair
  obtain ⟨before, after, s, _, u, _, hevents, _, hready, _, hstate, _, htraceless⟩ :=
    unprocessed_without_trace.2.1 "" refusedRequest t effects 0 _ hrun hcycle
      (Or.inr (Or.inl rfl))
  exact ⟨t, effects, hrun, hcycle, hclock, before, after, s, u, hevents, hready, hstate,
    htraceless⟩

end System

end AlarmMonitor.Polling
