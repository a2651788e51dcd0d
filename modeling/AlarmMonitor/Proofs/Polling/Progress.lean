import AlarmMonitor.Proofs.Polling.Deed
import AlarmMonitor.Proofs.Polling.Run
import Mathlib.Data.List.Induction

/-!
# The progress of a cycle

A cycle goes on by steps of its task and by the answer to its request, and everything else that
happens to the poller leaves it where it is.

* `System.HasState`: the state behind a transition, given up or not;
* `System.CycleOrigin`, `System.cycleOrigin_of_apply`: where the cycle at a place comes from;
* `System.step_of_cycle`, `System.cycle?_of_apply_ne`: how a cycle goes on, and when it stays;
* `System.entered_of_run`: the moment from which on a cycle has had a property.
-/

set_option autoImplicit false

namespace AlarmMonitor.Polling

namespace System

/-! ## The state behind a transition -/

/-- The poller has this state, and has lost its timer if it has been given up. -/
def HasState (t : System) (state : State) : Prop :=
  t.state = if t.isAlive then state else { state with timer := none }

theorem hasState_reap (u : System) : u.reap.HasState u.state := by
  unfold HasState
  rw [isAlive_reap]
  cases h : u.isAlive with
  | true => rw [reap_of_alive h, if_pos rfl]
  | false => rw [state_reap_of_dead h, if_neg Bool.false_ne_true]

theorem HasState.eq_of_alive {t : System} {state : State} (h : t.HasState state)
    (halive : t.isAlive = true) : t.state = state := by
  rw [h, if_pos halive]

theorem HasState.seen_eq {t : System} {state : State} (h : t.HasState state) :
    t.state.seen = state.seen := by
  rw [h]
  split <;> rfl

/-- Giving up a poller leaves its hint alone, as does every transition. -/
theorem hint_of_apply {s t : System} {e : Event} {told : List Effect}
    (h : s.apply e = some (t, told)) : t.hint = s.hint := by
  obtain ⟨u, hact, rfl⟩ := apply_eq_some_iff.mp h
  have hreap : u.reap.hint = u.hint := by
    unfold reap
    split
    · rfl
    · split <;> rfl
  rw [hreap]
  cases act_eq_some_iff.mp hact with
  | stop =>
      unfold stop
      cases s.state.timer <;> rfl
  | start | poll | step | deliver | abort | drop | configure | clearHistory | tick | retain
  | release => rfl

theorem hint_of_run {hint : String} {events : List Event} {s : System} {effects : List Effect}
    (h : (new hint).run events = some (s, effects)) : s.hint = hint :=
  run_induction (P := fun s => s.hint = hint) (fun hs happly => (hint_of_apply happly).trans hs)
    rfl h

/-! ## Where a cycle comes from -/

theorem cycle?_eq_some_iff {s : System} {id : Nat} {cycle : Cycle} :
    s.cycle? id = some cycle ↔ ∃ owner : Owner, s.task? id = some (owner.task cycle) := by
  constructor
  · intro h
    obtain ⟨t, htask, ht⟩ := Option.bind_eq_some_iff.mp h
    obtain ⟨owner, rfl⟩ := Task.eq_task_of_cycle? ht
    exact ⟨owner, htask⟩
  · rintro ⟨owner, htask⟩
    exact Option.bind_eq_some_iff.mpr ⟨_, htask, Task.cycle?_task owner cycle⟩

/-- Where the cycle at a place behind a transition comes from. -/
inductive CycleOrigin (s : System) (e : Event) (t : System) (told : List Effect) (id : Nat) :
    Cycle → Prop where
  /-- It has not begun. -/
  | ready : CycleOrigin s e t told id .ready
  /-- It was there before. -/
  | kept {cycle : Cycle} (he : e ≠ .step id) (h : s.cycle? id = some cycle) :
      CycleOrigin s e t told id cycle
  | answered {session : Nat} {endpoint : String} {reply : Backend.Reply}
      (he : e = .deliver id reply) (h : s.cycle? id = some (.waiting session endpoint)) :
      CycleOrigin s e t told id (.answered session endpoint reply)
  | stepped {cycle next : Cycle} {state : State} (he : e = .step id)
      (h : s.cycle? id = some cycle)
      (hstep : Cycle.Step s.hint s.now id s.state cycle (state, next, told))
      (hstate : t.HasState state) : CycleOrigin s e t told id next

/-- The cycle at a place behind a transition has not begun, or was there before, or is what the
answer to its request or a step of its task made of it. -/
theorem cycleOrigin_of_apply {s t : System} {e : Event} {told : List Effect} {id : Nat}
    {cycle : Cycle} (h : s.apply e = some (t, told)) (hcycle : t.cycle? id = some cycle) :
    s.CycleOrigin e t told id cycle := by
  obtain ⟨task, htask, hin⟩ := Option.bind_eq_some_iff.mp hcycle
  have hfate := fate_of_apply h id
  rw [htask] at hfate
  generalize hbefore : s.task? id = before at hfate
  cases hfate with
  | kept he => exact .kept he (Option.bind_eq_some_iff.mpr ⟨task, hbefore, hin⟩)
  | called hcall =>
      rcases hcall with ⟨_, rfl⟩ | ⟨_, _, rfl⟩
      · cases hin
        exact .ready
      · exact absurd hin nofun
  | spawned => exact absurd hin nofun
  | @stepped slot p he hslot hfree hp heffects =>
      subst he
      obtain ⟨u, hact, rfl⟩ := apply_eq_some_iff.mp h
      obtain ⟨_, _, hslot', _, hp', rfl, rfl⟩ := step_eq_some_iff.mp hact
      cases Option.some.inj (hslot.symm.trans hslot')
      cases Option.some.inj (hp.symm.trans hp')
      rcases Task.inside_or_outside hp with ⟨owner, old, hold, hpiece⟩ | hout
      · obtain ⟨⟨state, next, effects⟩, hstep, rfl⟩ := Option.map_eq_some_iff.mp hpiece
        cases (Task.cycle?_task owner next).symm.trans hin
        have hcycle : s.cycle? id = some old :=
          cycle?_eq_some_iff.mpr ⟨owner, hbefore.trans (congrArg some hold)⟩
        exact .stepped rfl hcycle (Cycle.step_eq_some_iff.mp hstep) (hasState_reap _)
      · rcases hout.cycle with hnone | hready
        · exact absurd (hnone.symm.trans hin) nofun
        · cases hready.symm.trans hin
          exact .ready
  | delivered he hnext =>
      obtain ⟨owner, session, endpoint, rfl, rfl⟩ := Task.answered_of_deliver hnext
      cases (Task.cycle?_task owner _).symm.trans hin
      exact .answered he (cycle?_eq_some_iff.mpr ⟨owner, hbefore⟩)
  | @dropped before' =>
      rw [Task.cycle?_dropped] at hin
      exact absurd hin nofun

/-! ## How a cycle goes on -/

/-- A task inside a cycle that has not ended holds the poller. -/
theorem Owner.holdsPoller_task (owner : Owner) {cycle : Cycle}
    (h : ∀ outcome, cycle ≠ .ended outcome) : (owner.task cycle).holdsPoller = true := by
  cases cycle with
  | ended outcome => exact absurd rfl (h outcome)
  | ready | waiting | answered | showing => cases owner <;> rfl

/-- A poller with a cycle that has not ended is not given up. -/
theorem isAlive_of_cycle? {s : System} {id : Nat} {cycle : Cycle}
    (hcycle : s.cycle? id = some cycle) (h : ∀ outcome, cycle ≠ .ended outcome) :
    s.isAlive = true := by
  obtain ⟨owner, htask⟩ := cycle?_eq_some_iff.mp hcycle
  obtain ⟨slot, hslot, hin⟩ := task?_eq_some_iff.mp htask
  exact isAlive_of_holdsPoller hslot (hin ▸ Owner.holdsPoller_task owner h)

/-- A step of a task inside a cycle is a step of the cycle. -/
theorem step_of_cycle {s t : System} {id : Nat} {cycle : Cycle} {told : List Effect}
    (hcycle : s.cycle? id = some cycle) (hgoes : ∀ outcome, cycle ≠ .ended outcome)
    (h : s.apply (.step id) = some (t, told)) :
    ∃ state next, Cycle.Step s.hint s.now id s.state cycle (state, next, told) ∧
      t.cycle? id = some next ∧ t.HasState state := by
  obtain ⟨owner, htask⟩ := cycle?_eq_some_iff.mp hcycle
  obtain ⟨slot, hslot, hin⟩ := task?_eq_some_iff.mp htask
  obtain ⟨u, hact, rfl⟩ := apply_eq_some_iff.mp h
  obtain ⟨_, p, hslot', _, hp, rfl, rfl⟩ := step_eq_some_iff.mp hact
  cases Option.some.inj (hslot.symm.trans hslot')
  rw [hin, owner.piece_task hgoes] at hp
  obtain ⟨⟨state, next, effects⟩, hstep, rfl⟩ := Option.map_eq_some_iff.mp hp
  refine ⟨state, next, Cycle.step_eq_some_iff.mp hstep, ?_, hasState_reap _⟩
  refine cycle?_eq_some_iff.mpr ⟨owner, ?_⟩
  rw [task?_reap, task?_leave_self hslot]

/-- A cycle that is neither in its request nor at its beginning takes its steps, told to end or
not. -/
theorem exists_step_of_cycle {s : System} {id : Nat} {cycle : Cycle}
    {r : State × Cycle × List Effect} (hcycle : s.cycle? id = some cycle)
    (hwaits : cycle.isWaiting = false) (hbegun : cycle ≠ .ready)
    (hstep : Cycle.Step s.hint s.now id s.state cycle r) :
    ∃ t, s.apply (.step id) = some (t, r.2.2) := by
  obtain ⟨owner, htask⟩ := cycle?_eq_some_iff.mp hcycle
  obtain ⟨slot, hslot, hin⟩ := task?_eq_some_iff.mp htask
  have hgoes : ∀ outcome, cycle ≠ .ended outcome := by
    rintro outcome rfl
    exact absurd hstep nofun
  have hfree : slot.task.isSuspended = false := by
    rw [hin]
    cases cycle with
    | ready => exact absurd rfl hbegun
    | waiting | answered => exact absurd hwaits nofun
    | showing | ended => cases owner <;> rfl
  have hp : slot.task.piece (s.context id) s.state =
      some ⟨r.1, owner.task r.2.1, [], r.2.2⟩ := by
    rw [hin, owner.piece_task hgoes]
    exact Option.map_eq_some_iff.mpr ⟨r, Cycle.step_eq_some_iff.mpr hstep, rfl⟩
  have hact : s.act (.step id) = some (s.leave id _, r.2.2) :=
    step_eq_some_iff.mpr ⟨slot, _, hslot, by rw [hfree, Bool.and_false], hp, rfl, rfl⟩
  exact ⟨_, apply_eq_some_iff.mpr ⟨_, hact, rfl⟩⟩

/-- A cycle that is neither in its request nor at its beginning stays where it is until its task
takes a step. -/
theorem cycle?_of_apply_ne {s t : System} {e : Event} {told : List Effect} {id : Nat}
    {cycle : Cycle} (hcycle : s.cycle? id = some cycle) (hwaits : cycle.isWaiting = false)
    (hbegun : cycle ≠ .ready) (he : e ≠ .step id) (h : s.apply e = some (t, told)) :
    t.cycle? id = some cycle := by
  obtain ⟨owner, htask⟩ := cycle?_eq_some_iff.mp hcycle
  have hfate := fate_of_apply h id
  rw [htask] at hfate
  refine cycle?_eq_some_iff.mpr ⟨owner, ?_⟩
  generalize t.task? id = behind at hfate ⊢
  generalize hbefore : some (owner.task cycle) = before at hfate ⊢
  cases hfate with
  | kept => rfl
  | called | spawned => exact absurd hbefore nofun
  | stepped hstep => exact absurd hstep he
  | delivered _ hnext =>
      cases hbefore
      rw [owner.deliver_task] at hnext
      cases cycle with
      | waiting => exact absurd hwaits nofun
      | ready | answered | showing | ended => exact absurd hnext nofun
  | dropped _ hsuspended =>
      cases hbefore
      cases cycle with
      | ready => exact absurd rfl hbegun
      | waiting | answered => exact absurd hwaits nofun
      | showing | ended => cases owner <;> exact absurd hsuspended nofun

/-! ## Since when -/

/-- Throughout the run the cycle at the place has the property. -/
def Stays (P : Cycle → Prop) (id : Nat) (s : System) (events : List Event) : Prop :=
  ∀ early u seen, early <+: events → s.run early = some (u, seen) →
    ∃ cycle, u.cycle? id = some cycle ∧ P cycle

variable {P : Cycle → Prop} {id : Nat}

theorem Stays.here {s : System} {events : List Event} (h : s.Stays P id events) :
    ∃ cycle, s.cycle? id = some cycle ∧ P cycle :=
  h [] s [] List.nil_prefix rfl

theorem Stays.behind {s u : System} {early late : List Event} {seen : List Effect}
    (h : s.Stays P id (early ++ late)) (hrun : s.run early = some (u, seen)) :
    u.Stays P id late := by
  intro more v shown hmore hv
  have hall : s.run (early ++ more) = some (v, seen ++ shown) :=
    run_append_eq_some_iff.mpr ⟨u, seen, shown, hrun, hv, rfl⟩
  exact h (early ++ more) v _ ((List.prefix_append_right_inj early).mpr hmore) hall

theorem Stays.tail {s u : System} {e : Event} {rest : List Event} {told : List Effect}
    (h : s.Stays P id (e :: rest)) (happly : s.apply e = some (u, told)) :
    u.Stays P id rest := by
  have hrun : s.run [e] = some (u, told) :=
    run_cons_eq_some_iff.mpr ⟨u, told, [], happly, rfl, (List.append_nil told).symm⟩
  exact Stays.behind h hrun

theorem Stays.concat {s t : System} {events : List Event} {e : Event} {effects : List Effect}
    {cycle : Cycle} (hs : s.Stays P id events) (hrun : s.run (events ++ [e]) = some (t, effects))
    (hcycle : t.cycle? id = some cycle) (hP : P cycle) : s.Stays P id (events ++ [e]) := by
  intro early u seen hearly hu
  rcases List.prefix_concat_iff.mp hearly with rfl | hbefore
  · cases hrun.symm.trans hu
    exact ⟨cycle, hcycle, hP⟩
  · exact hs early u seen hbefore hu

/-- The moment from which on the cycle at a place has had the property. -/
theorem entered_of_run {hint : String} {events : List Event} {t : System} {effects : List Effect}
    {cycle : Cycle} (hrun : (new hint).run events = some (t, effects))
    (hcycle : t.cycle? id = some cycle) (hP : P cycle) :
    ∃ before e after s early s₁ told later, events = before ++ e :: after ∧
      (new hint).run before = some (s, early) ∧ s.apply e = some (s₁, told) ∧
      s₁.run after = some (t, later) ∧ (∀ old, s.cycle? id = some old → ¬ P old) ∧
      s₁.Stays P id after := by
  induction events using List.reverseRecOn generalizing t effects cycle with
  | nil =>
      cases hrun
      exact absurd hcycle nofun
  | append_singleton events e ih =>
      obtain ⟨u, first, last, hfirst, hlast, _⟩ := run_append_eq_some_iff.mp hrun
      obtain ⟨_, told, _, happly, hnil, _⟩ := run_cons_eq_some_iff.mp hlast
      cases hnil
      by_cases hbefore : ∃ old, u.cycle? id = some old ∧ P old
      · obtain ⟨old, hold, hPold⟩ := hbefore
        obtain ⟨before, e₀, after, s, early, s₁, told₀, later, rfl, hbefore, hentry, hafter, hout,
          hstays⟩ := ih hfirst hold hPold
        have hall : s₁.run (after ++ [e]) = some (t, later ++ last) :=
          run_append_eq_some_iff.mpr ⟨u, later, last, hafter, hlast, rfl⟩
        refine ⟨before, e₀, after ++ [e], s, early, s₁, told₀, later ++ last, ?_, hbefore, hentry,
          hall, hout, hstays.concat hall hcycle hP⟩
        rw [List.append_assoc, List.cons_append]
      · refine ⟨events, e, [], u, first, t, told, [], rfl, hfirst, happly, rfl, ?_, ?_⟩
        · exact fun old hold hPold => hbefore ⟨old, hold, hPold⟩
        · intro early v seen hearly hv
          cases List.prefix_nil.mp hearly
          cases hv
          exact ⟨cycle, hcycle, hP⟩

end System

end AlarmMonitor.Polling
