import AlarmMonitor.Proofs.Polling.Run

/-!
# The requests of cycles

A cycle belongs to a start, to a call for one cycle or to a timer.  Its request begins where it
opens, carries the session that runs at that moment, and stays on its way until the task looks at
the reply or is dropped.

* `Task.inside_or_outside`: a piece of a task is one of its cycle or begins no request;
* `Cycle.request_of_piece`, `Cycle.piece_answered`: how a request begins and how its reply ends;
* `System.Flight`, `System.flight_of_run`: a request on its way, at any moment between the two;
* `System.session_of_request_le`: no request carries a session that has not begun.
-/

set_option autoImplicit false

namespace AlarmMonitor.Polling

/-! ## Cycles and their owners -/

/-- The kind of task that a cycle belongs to. -/
inductive Owner where
  | start (session : Nat)
  | poll
  | timer (session : Nat)
  deriving DecidableEq, Repr

namespace Owner

/-- The task of this kind whose cycle stands here. -/
def task : Owner → Cycle → Task
  | .start session, c => .start (.cycling session c)
  | .poll, c => .poll c
  | .timer session, c => .timer session (.cycling c)

/-- The next piece of a task inside a cycle is the next piece of its cycle. -/
theorem piece_task (o : Owner) {cycle : Cycle} (h : ∀ outcome, cycle ≠ .ended outcome)
    (c : Context) (s : State) : (o.task cycle).piece c s = cycle.piece c s o.task := by
  cases cycle with
  | ended outcome => exact absurd rfl (h outcome)
  | ready | waiting | answered | showing => cases o <;> rfl

/-- A task inside a cycle takes a reply as its cycle does. -/
theorem deliver_task (o : Owner) (cycle : Cycle) (reply : Backend.Reply) :
    (o.task cycle).deliver reply = (cycle.deliver reply).map o.task := by
  cases o <;> rfl

end Owner

namespace Task

/-- The cycle that a task is inside of. -/
def cycle? : Task → Option Cycle
  | .start (.cycling _ c) | .poll c | .timer _ (.cycling c) => some c
  | _ => none

theorem cycle?_task (o : Owner) (cycle : Cycle) : (o.task cycle).cycle? = some cycle := by
  cases o <;> rfl

/-- A dropped task is inside of no cycle. -/
theorem cycle?_dropped (t : Task) : t.dropped.cycle? = none := by
  cases t with
  | start phase => cases phase <;> rfl
  | poll | timer | gone => rfl

/-- A task inside a cycle belongs to one of the three kinds. -/
theorem eq_task_of_cycle? {t : Task} {cycle : Cycle} (h : t.cycle? = some cycle) :
    ∃ o : Owner, t = o.task cycle := by
  cases t with
  | start phase =>
      cases phase with
      | cycling session c =>
          cases h
          exact ⟨.start session, rfl⟩
      | entering | arming | leaving | cancelled | returned => exact absurd h nofun
  | poll c =>
      cases h
      exact ⟨.poll, rfl⟩
  | timer session phase =>
      cases phase with
      | cycling c =>
          cases h
          exact ⟨.timer session, rfl⟩
      | spawned | checking | sleeping | ended => exact absurd h nofun
  | gone => exact absurd h nofun

/-- Only a task inside a cycle takes a reply. -/
theorem eq_task_of_deliver {t next : Task} {reply : Backend.Reply}
    (h : t.deliver reply = some next) : ∃ (o : Owner) (cycle : Cycle), t = o.task cycle := by
  cases t with
  | start phase =>
      cases phase with
      | cycling session c => exact ⟨.start session, c, rfl⟩
      | entering | arming | leaving | cancelled | returned => exact absurd h nofun
  | poll c => exact ⟨.poll, c, rfl⟩
  | timer session phase =>
      cases phase with
      | cycling c => exact ⟨.timer session, c, rfl⟩
      | spawned | checking | sleeping | ended => exact absurd h nofun
  | gone => exact absurd h nofun

end Task

/-- A piece outside of a cycle begins no request and shows nothing, and leaves the task at most at
the beginning of a cycle. -/
structure Piece.Outside (p : Piece) : Prop where
  cycle : p.task.cycle? = none ∨ p.task.cycle? = some .ready
  effects : ∀ x ∈ p.effects, (∃ n, x = .note n) ∨ ∃ task, x = .spawned task

theorem Start.outside_of_piece {c : Context} {s : State} {phase : Start} {p : Piece}
    (h : phase.piece c s = some p) (hout : (Task.start phase).cycle? = none) : p.Outside := by
  cases phase with
  | entering options =>
      simp only [piece] at h
      split at h
      · cases Option.some.inj h
        exact ⟨Or.inl rfl, fun x hx => absurd hx List.not_mem_nil⟩
      · cases Option.some.inj h
        refine ⟨Or.inr rfl, fun x hx => Or.inl ?_⟩
        obtain ⟨n, _, rfl⟩ := List.mem_map.mp hx
        exact ⟨n, rfl⟩
  | cycling session cycle => exact absurd hout (Option.some_ne_none cycle)
  | arming session =>
      simp only [piece] at h
      split at h
      · cases Option.some.inj h
        exact ⟨Or.inl rfl, fun x hx => Or.inr ⟨c.next, List.mem_singleton.mp hx⟩⟩
      · cases Option.some.inj h
        exact ⟨Or.inl rfl, fun x hx => absurd hx List.not_mem_nil⟩
  | leaving session | cancelled session =>
      simp only [piece, Option.some.injEq] at h
      subst h
      refine ⟨Or.inl rfl, fun x hx => Or.inl ?_⟩
      simp only at hx
      split at hx
      · exact ⟨_, List.mem_singleton.mp hx⟩
      · exact absurd hx List.not_mem_nil
  | returned => exact absurd h (Option.some_ne_none p).symm

theorem Timer.outside_of_piece {c : Context} {s : State} {session : Nat} {phase : Timer}
    {p : Piece} (h : phase.piece c s session = some p)
    (hout : (Task.timer session phase).cycle? = none) : p.Outside := by
  have hquiet : ∀ {t : Task} {state : State}, t.cycle? = none ∨ t.cycle? = some .ready →
      some ⟨state, t, [], []⟩ = some p → p.Outside := by
    intro t state ht heq
    cases heq
    exact ⟨ht, fun x hx => absurd hx List.not_mem_nil⟩
  cases phase with
  | spawned | checking =>
      simp only [piece] at h
      split at h
      · split at h <;> exact hquiet (Or.inl rfl) h
      · exact hquiet (Or.inl rfl) h
  | sleeping wakeAt =>
      simp only [piece] at h
      split at h
      · split at h
        · exact hquiet (Or.inr rfl) h
        · exact hquiet (Or.inl rfl) h
      · exact absurd h (Option.some_ne_none p).symm
  | cycling cycle => exact absurd hout (Option.some_ne_none cycle)
  | ended => exact absurd h (Option.some_ne_none p).symm

/-- A piece of a task is a piece of its cycle, or lies outside of it. -/
theorem Task.inside_or_outside {c : Context} {s : State} {t : Task} {p : Piece}
    (h : t.piece c s = some p) :
    (∃ (o : Owner) (cycle : Cycle), t = o.task cycle ∧ cycle.piece c s o.task = some p) ∨
      p.Outside := by
  cases ht : t.cycle? with
  | some cycle =>
      obtain ⟨o, rfl⟩ := eq_task_of_cycle? ht
      by_cases hend : ∃ outcome, cycle = .ended outcome
      · -- a cycle that has ended is left behind
        obtain ⟨outcome, rfl⟩ := hend
        refine Or.inr ?_
        cases o with
        | poll => exact absurd h nofun
        | start session | timer session =>
            cases Option.some.inj h
            exact ⟨Or.inl rfl, fun x hx => Or.inl ⟨_, List.mem_singleton.mp hx⟩⟩
      · have hgoes : ∀ outcome, cycle ≠ .ended outcome := fun outcome heq => hend ⟨outcome, heq⟩
        rw [o.piece_task hgoes] at h
        exact Or.inl ⟨o, cycle, rfl, h⟩
  | none =>
      refine Or.inr ?_
      cases t with
      | start phase => exact Start.outside_of_piece h ht
      | poll cycle => exact absurd ht nofun
      | timer session phase => exact Timer.outside_of_piece h ht
      | gone => exact absurd h nofun

namespace Cycle

/-- The session of the request that a cycle waits for, or whose answer it has. -/
def session? : Cycle → Option Nat
  | .waiting session _ | .answered session _ _ => some session
  | _ => none

/-- A step of a cycle begins a request only where the cycle opens, in the session that runs. -/
theorem request_of_step {hint endpoint : String} {now id place : Nat} {s s' : State}
    {cycle next : Cycle} {effects : List Effect}
    (h : cycle.step hint now id s = some (s', next, effects))
    (hrequest : .request place endpoint ∈ effects) :
    cycle = .ready ∧ next = .waiting s.session endpoint ∧ s.running = true := by
  cases step_eq_some_iff.mp h with
  | request hrun _ =>
      cases List.mem_singleton.mp hrequest
      exact ⟨rfl, rfl, hrun⟩
  | taken =>
      unfold pruneNotes at hrequest
      split at hrequest
      · exact absurd hrequest List.not_mem_nil
      · exact absurd (List.mem_singleton.mp hrequest) nofun
  | notRunning | processed => exact absurd hrequest List.not_mem_nil
  | debounced | fetchFailed | discarded | shown =>
      exact absurd (List.mem_singleton.mp hrequest) nofun

/-- The request of a cycle is one of the session in which it began. -/
theorem session_of_step {hint : String} {now place session : Nat} {s s' : State}
    {cycle next : Cycle} {effects : List Effect}
    (h : cycle.step hint now place s = some (s', next, effects))
    (hsession : next.session? = some session) : session = s.session := by
  cases step_eq_some_iff.mp h with
  | request => exact (Option.some.inj hsession).symm
  | notRunning | debounced | fetchFailed | discarded | taken | shown | processed =>
      exact absurd hsession nofun

/-- A piece of a task begins a request where the cycle of the task opens. -/
theorem request_of_piece {c : Context} {s : State} {t : Task} {p : Piece} {place : Nat}
    {endpoint : String} (h : t.piece c s = some p)
    (hrequest : .request place endpoint ∈ p.effects) :
    ∃ o : Owner, t = o.task .ready ∧ p.task = o.task (.waiting s.session endpoint) ∧
      s.running = true ∧ p.state.control = s.control := by
  rcases Task.inside_or_outside h with ⟨o, cycle, rfl, hp⟩ | hout
  · have hcontrol := (control_of_piece hp).1
    obtain ⟨⟨s', next, effects⟩, hstep, rfl⟩ := Option.map_eq_some_iff.mp hp
    obtain ⟨rfl, rfl, hrun⟩ := request_of_step hstep hrequest
    exact ⟨o, rfl, rfl, hrun, hcontrol⟩
  · rcases hout.effects _ hrequest with ⟨_, hnote⟩ | ⟨_, hspawned⟩
    · exact absurd hnote nofun
    · exact absurd hspawned nofun

/-- A piece of a task begins no request but in the session that runs. -/
theorem session_of_piece {c : Context} {s : State} {t : Task} {p : Piece} {cycle : Cycle}
    {session : Nat} (h : t.piece c s = some p) (hcycle : p.task.cycle? = some cycle)
    (hsession : cycle.session? = some session) : session = s.session := by
  rcases Task.inside_or_outside h with ⟨o, before, rfl, hp⟩ | hout
  · obtain ⟨⟨s', next, effects⟩, hstep, rfl⟩ := Option.map_eq_some_iff.mp hp
    rw [Task.cycle?_task] at hcycle
    cases hcycle
    exact session_of_step hstep hsession
  · rcases hout.cycle with hnone | hready
    · rw [hnone] at hcycle
      exact absurd hcycle nofun
    · rw [hready] at hcycle
      cases hcycle
      exact absurd hsession nofun

/-- An answer keeps the session of its request. -/
theorem session_of_deliver {t next : Task} {reply : Backend.Reply} {cycle : Cycle} {session : Nat}
    (h : t.deliver reply = some next) (hcycle : next.cycle? = some cycle)
    (hsession : cycle.session? = some session) :
    ∃ before, t.cycle? = some before ∧ before.session? = some session := by
  obtain ⟨o, before, rfl⟩ := Task.eq_task_of_deliver h
  rw [Owner.deliver_task] at h
  obtain ⟨after, hafter, rfl⟩ := Option.map_eq_some_iff.mp h
  rw [Task.cycle?_task] at hcycle
  cases hcycle
  refine ⟨before, Task.cycle?_task o before, ?_⟩
  cases before with
  | waiting n endpoint =>
      cases hafter
      exact hsession
  | ready | answered | showing | ended => exact absurd hafter nofun

/-- What comes of a reply when it is looked at: a failure and a reply to an earlier session come to
nothing, and a reply to the current one is taken in. -/
theorem piece_answered {c : Context} {s : State} {wrap : Cycle → Task} {session : Nat}
    {endpoint : String} {reply : Backend.Reply} {p : Piece}
    (h : (Cycle.answered session endpoint reply).piece c s wrap = some p) :
    ((p.task = wrap (.ended .fetchFailed) ∨
        (p.task = wrap (.ended .discarded) ∧ (s.running = false ∨ s.session ≠ session))) ∧
      p.state = s ∧ p.spawned = [] ∧ ∃ n, p.effects = [.note n] ∧ n ≠ .startCancelled) ∨
    ((∃ fetched surfaced texts, p.task = wrap (.showing fetched surfaced texts)) ∧
      s.running = true ∧ s.session = session) := by
  obtain ⟨r, hstep, rfl⟩ := Option.map_eq_some_iff.mp h
  cases step_eq_some_iff.mp hstep with
  | fetchFailed => exact Or.inl ⟨Or.inl rfl, rfl, rfl, _, rfl, nofun⟩
  | discarded hstale => exact Or.inl ⟨Or.inr ⟨rfl, hstale⟩, rfl, rfl, _, rfl, nofun⟩
  | taken hrun hsession => exact Or.inr ⟨⟨_, _, _, rfl⟩, hrun, hsession⟩

end Cycle

namespace System

/-! ## A request on its way -/

/-- The cycle at a place. -/
def cycle? (s : System) (id : Nat) : Option Cycle := (s.task? id).bind (·.cycle?)

/-- The request that a cycle of this owner began is on its way, or answered, or its task was
dropped. -/
inductive Flight (o : Owner) (session : Nat) (endpoint : String) : Task → Prop where
  | waiting : Flight o session endpoint (o.task (.waiting session endpoint))
  | answered (reply : Backend.Reply) :
      Flight o session endpoint (o.task (.answered session endpoint reply))
  | dropped (cycle : Cycle) : Flight o session endpoint (o.task cycle).dropped

theorem Flight.deliver {o : Owner} {session : Nat} {endpoint : String} {t next : Task}
    {reply : Backend.Reply} (h : Flight o session endpoint t) (hd : t.deliver reply = some next) :
    Flight o session endpoint next := by
  cases h with
  | waiting =>
      rw [Owner.deliver_task] at hd
      cases Option.some.inj hd
      exact .answered reply
  | answered reply' =>
      rw [Owner.deliver_task] at hd
      exact absurd hd nofun
  | dropped cycle => cases o <;> exact absurd hd nofun

theorem Flight.drop {o : Owner} {session : Nat} {endpoint : String} {t : Task}
    (h : Flight o session endpoint t) (hsuspended : t.isSuspended = true) :
    Flight o session endpoint t.dropped := by
  cases h with
  | waiting => exact .dropped _
  | answered reply => exact .dropped _
  | dropped cycle => cases o <;> exact absurd hsuspended nofun

/-- A request stays on its way until its own task takes a step. -/
theorem flight_of_apply {s u : System} {e : Event} {effects : List Effect} {id session : Nat}
    {o : Owner} {endpoint : String} {t : Task} (ht : s.task? id = some t)
    (hflight : Flight o session endpoint t) (h : s.apply e = some (u, effects))
    (hown : e ≠ .step id) : ∃ t', u.task? id = some t' ∧ Flight o session endpoint t' := by
  by_cases he : e.task? = some id
  · obtain ⟨v, hact, rfl⟩ := apply_eq_some_iff.mp h
    rw [task?_reap]
    have hsame : ∀ {slot : Slot}, s.slots[id]? = some slot → slot.task = t := fun hslot =>
      Option.some.inj ((task?_eq_some_iff.mpr ⟨_, hslot, rfl⟩).symm.trans ht)
    cases act_eq_some_iff.mp hact with
    | step =>
        cases he
        exact absurd rfl hown
    | @deliver _ _ slot next hslot hnext =>
        cases he
        rw [hsame hslot] at hnext
        exact ⟨next, task?_setTask_self hslot next, hflight.deliver hnext⟩
    | abort =>
        cases he
        exact ⟨t, (task?_markAborted s id id).trans ht, hflight⟩
    | drop hslot hsuspended =>
        cases he
        rw [hsame hslot] at hsuspended ⊢
        exact ⟨t.dropped, task?_setTask_self hslot _, hflight.drop hsuspended⟩
    | start | poll | configure | stop | clearHistory | tick | retain | release =>
        exact absurd he nofun
  · exact ⟨t, task?_of_apply h he ht, hflight⟩

theorem flight_of_run {s u : System} {events : List Event} {effects : List Effect}
    {id session : Nat} {o : Owner} {endpoint : String} {t : Task} (ht : s.task? id = some t)
    (hflight : Flight o session endpoint t) (h : s.run events = some (u, effects))
    (hown : .step id ∉ events) : ∃ t', u.task? id = some t' ∧ Flight o session endpoint t' := by
  induction events generalizing s t effects with
  | nil =>
      cases h
      exact ⟨t, ht, hflight⟩
  | cons e rest ih =>
      obtain ⟨v, _, _, happly, hrun, _⟩ := run_cons_eq_some_iff.mp h
      have he : e ≠ .step id := fun heq => hown (heq ▸ List.mem_cons_self)
      obtain ⟨t', ht', hflight'⟩ := flight_of_apply ht hflight happly he
      exact ih ht' hflight' hrun fun hmem => hown (List.mem_cons_of_mem e hmem)

/-- What the next piece of a task does whose request is on its way.  It leaves nothing behind, or
it is the guard of a dropped start whose session still goes on, or the reply is taken in. -/
theorem Flight.piece {c : Context} {s : State} {o : Owner} {session : Nat} {endpoint : String}
    {t : Task} {p : Piece} (h : Flight o session endpoint t) (hp : t.piece c s = some p) :
    (p.state = s ∧ (∀ text, .show text ∉ p.effects) ∧
      (p.task.cycle? = none ∨ p.task.cycle? = some (.ended .discarded) ∨
        p.task.cycle? = some (.ended .fetchFailed))) ∨
    (∃ n, o = .start n ∧ s.running = true ∧ s.session = n ∧ p.task.cycle? = none) ∨
    (s.running = true ∧ s.session = session) := by
  cases h with
  | waiting =>
      have hcycle : ∀ outcome, Cycle.waiting session endpoint ≠ .ended outcome := nofun
      rw [Owner.piece_task o hcycle] at hp
      exact absurd hp nofun
  | answered reply =>
      have hcycle : ∀ outcome, Cycle.answered session endpoint reply ≠ .ended outcome := nofun
      rw [Owner.piece_task o hcycle] at hp
      rcases Cycle.piece_answered hp with ⟨hend, hstate, _, n, heffects, _⟩ | ⟨_, hcurrent⟩
      · refine Or.inl ⟨hstate, ?_, Or.inr ?_⟩
        · intro text htext
          rw [heffects] at htext
          exact absurd (List.mem_singleton.mp htext) nofun
        rcases hend with htask | ⟨htask, _⟩
        · rw [htask, Task.cycle?_task]
          exact Or.inr rfl
        · rw [htask, Task.cycle?_task]
          exact Or.inl rfl
      · exact Or.inr (Or.inr hcurrent)
  | dropped cycle =>
      cases o with
      | poll | timer => exact absurd hp nofun
      | start n =>
          have hguard : Task.piece c s (.start (.cancelled n)) = some p := hp
          simp only [Task.piece, Start.piece, Option.some.injEq] at hguard
          by_cases hawaits : s.awaitsTimer n = true
          · obtain ⟨hrun, hsession, _⟩ := State.awaitsTimer_iff.mp hawaits
            exact Or.inr (Or.inl ⟨n, rfl, hrun, hsession, hguard ▸ rfl⟩)
          · rw [State.rollBack_of_not_awaits hawaits] at hguard
            subst hguard
            exact Or.inl ⟨rfl, fun _ => List.not_mem_nil, Or.inl rfl⟩

/-- A request begins in a running period, which goes on behind it. -/
theorem flight_of_request {s u : System} {id place : Nat} {endpoint : String}
    {effects : List Effect} (h : s.apply (.step id) = some (u, effects))
    (hrequest : .request place endpoint ∈ effects) :
    ∃ o : Owner, s.task? id = some (o.task .ready) ∧
      u.task? id = some (o.task (.waiting s.state.session endpoint)) ∧
      u.state.running = true ∧ u.state.session = s.state.session := by
  obtain ⟨v, hact, rfl⟩ := apply_eq_some_iff.mp h
  obtain ⟨slot, p, hslot, _, hp, rfl, rfl⟩ := step_eq_some_iff.mp hact
  obtain ⟨o, htask, hnext, hrun, hcontrol⟩ := Cycle.request_of_piece hp hrequest
  obtain ⟨hrunning, hsession, _⟩ := State.control_eq_iff.mp hcontrol
  refine ⟨o, task?_eq_some_iff.mpr ⟨slot, hslot, htask⟩, ?_, ?_⟩
  · rw [task?_reap, task?_leave_self hslot, hnext]
  · rcases state_reap (s.leave id p) with hstate | hstate
    · rw [hstate]
      exact ⟨hrunning.trans hrun, hsession⟩
    · rw [hstate]
      exact ⟨hrunning.trans hrun, hsession⟩

/-! ## The session of a request -/

/-- No request carries a session that has not begun. -/
theorem session_of_request_le {s : System} (h : Reachable s) {place session : Nat} {cycle : Cycle}
    (hcycle : s.cycle? place = some cycle) (hsession : cycle.session? = some session) :
    session ≤ s.state.session := by
  refine Reachable.induction
    (P := fun s => ∀ {place session cycle}, s.cycle? place = some cycle →
      cycle.session? = some session → session ≤ s.state.session) ?_ ?_ h hcycle hsession
  · intro _ _ _ _ hnone
    exact absurd hnone nofun
  · intro s u e effects _ hs happly place session cycle hcycle hsession
    have hle : s.state.session ≤ u.state.session :=
      State.session_le_of_epoch_le (epoch_le_of_apply happly)
    obtain ⟨t, ht, hin⟩ := Option.bind_eq_some_iff.mp hcycle
    refine Nat.le_trans ?_ hle
    cases origin_of_apply happly ht with
    | kept hbefore =>
        exact hs (Option.bind_eq_some_iff.mpr ⟨t, hbefore, hin⟩) hsession
    | call hcall =>
        rcases hcall with rfl | ⟨_, rfl⟩
        · cases hin
          exact absurd hsession nofun
        · exact absurd hin nofun
    | spawned n => exact absurd hin nofun
    | stepped _ hp => exact Nat.le_of_eq (Cycle.session_of_piece hp hin hsession)
    | delivered hbefore hd =>
        obtain ⟨old, hold, hsame⟩ := Cycle.session_of_deliver hd hin hsession
        exact hs (Option.bind_eq_some_iff.mpr ⟨_, hbefore, hold⟩) hsame
    | @dropped old _ =>
        rw [Task.cycle?_dropped] at hin
        exact absurd hin nofun

end System

end AlarmMonitor.Polling
