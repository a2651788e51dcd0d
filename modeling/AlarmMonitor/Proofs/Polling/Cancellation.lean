import AlarmMonitor.Proofs.Polling.Accounting
import AlarmMonitor.Proofs.Polling.Progress
import AlarmMonitor.Proofs.Polling.Tenure

/-!
# Cancelled starts

A start that is dropped in its first cycle leaves its guard behind, which undoes the session of the
start and no other.

* `System.OnlyAt`: a transition that concerns one task and, at most, the state;
* `System.step_of_guard`: what the guard of a start does where it is released;
* `System.RestartsAtOnce`: the next start of a poller takes effect and asks the backend at once;
* `System.cancelled_start_rolls_back`: what becomes of a start that is dropped in its first cycle,
  and of one that returns.
-/

set_option autoImplicit false

namespace AlarmMonitor.Polling

namespace System

/-! ## Transitions that concern one task -/

/-- The clock, the handles and all tasks but the one at the place are as they were. -/
structure OnlyAt (id : Nat) (s t : System) : Prop where
  now : t.now = s.now
  handles : t.handles = s.handles
  others : ∀ {place}, place ≠ id → t.task? place = s.task? place

/-- Giving up a poller tells its timer to end, and leaves its tasks where they are. -/
theorem OnlyAt.reap {id : Nat} {s u : System} (h : s.OnlyAt id u) : s.OnlyAt id u.reap where
  now := (now_reap u).trans h.now
  handles := (handles_reap u).trans h.handles
  others hplace := (task?_reap u _).trans (h.others hplace)

/-- A task takes its next step unless it was told to end where it is suspended. -/
theorem apply_step_of_piece {s : System} {id : Nat} {slot : Slot} {p : Piece}
    (hslot : s.slots[id]? = some slot) (hfree : (slot.aborted && slot.task.isSuspended) = false)
    (hp : slot.task.piece (s.context id) s.state = some p) :
    s.apply (.step id) = some ((s.leave id p).reap, p.effects) :=
  apply_eq_some_iff.mpr ⟨_, step_eq_some_iff.mpr ⟨slot, p, hslot, hfree, hp, rfl, rfl⟩, rfl⟩

/-- A piece that leaves no other task behind concerns no task but its own. -/
theorem onlyAt_leave (s : System) (id : Nat) {p : Piece} (hspawned : p.spawned = []) :
    s.OnlyAt id (s.leave id p).reap := by
  refine OnlyAt.reap ⟨rfl, rfl, fun {place} hplace => ?_⟩
  unfold task?
  rw [slots_leave_of_spawned_nil hspawned, getElem?_setTask_ne hplace]

/-- The state of a poller without a timer does not show whether the poller is given up. -/
theorem HasState.eq_of_no_timer {t : System} {state : State} (h : t.HasState state)
    (htimer : state.timer = none) : t.state = state := by
  rw [h]
  split
  · rfl
  · rw [← htimer]

/-- A start that is dropped in its first cycle leaves its guard behind, and nothing else happens. -/
theorem drop_in_first_cycle {s : System} {call session : Nat} {cycle : Cycle}
    (htask : s.task? call = some (.start (.cycling session cycle)))
    (hwaits : cycle.isWaiting = true) :
    ∃ t, s.apply (.drop call) = some (t, []) ∧ t.state = s.state ∧ s.OnlyAt call t ∧
      t.task? call = some (.start (.cancelled session)) := by
  obtain ⟨slot, hslot, hin⟩ := task?_eq_some_iff.mp htask
  have hcall : slot.task.isTimer = false := by rw [hin]; rfl
  have hact : s.act (.drop call) = some (s.setTask call slot.task.dropped, []) :=
    act_eq_some_iff.mpr (.drop hslot (by rw [hin]; exact hwaits) (Or.inr hcall))
  have hguard : (s.setTask call slot.task.dropped).task? call =
      some (.start (.cancelled session)) := by
    rw [task?_setTask_self hslot, hin]
    rfl
  -- the guard belongs to a call that is not over
  have halive : (s.setTask call slot.task.dropped).isAlive = true := by
    obtain ⟨left, hleft, hleftIn⟩ := task?_eq_some_iff.mp hguard
    exact isAlive_of_holdsPoller hleft (by rw [hleftIn]; rfl)
  refine ⟨_, apply_eq_some_iff.mpr ⟨_, hact, (reap_of_alive halive).symm⟩, rfl, ?_, hguard⟩
  exact ⟨rfl, rfl, fun hplace => task?_setTask_ne hplace _⟩

/-! ## The guard of a start -/

/-- The state behind a guard that has undone the session. -/
def undone (s : State) : State :=
  { s with running := false, seen := .empty, lastCycle := none, timer := none }

/-- The guard of a start is released in one step: it undoes the session of the start if that is
running without a timer, and otherwise does nothing. -/
theorem step_of_guard {s : System} {call session : Nat} {phase : Start} {next : Task}
    (hreach : Reachable s) (htask : s.task? call = some (.start phase))
    (hphase : phase.Releases session next) :
    ∃ t, t.task? call = some next ∧ s.OnlyAt call t ∧
      ((s.state.awaitsTimer session = true ∧ t.state = undone s.state ∧
          s.apply (.step call) = some (t, [.note .startCancelled])) ∨
        (¬ s.state.awaitsTimer session = true ∧ t.HasState s.state ∧
          s.apply (.step call) = some (t, []))) := by
  obtain ⟨slot, hslot, hin⟩ := task?_eq_some_iff.mp htask
  have hfree : (slot.aborted && slot.task.isSuspended) = false := by
    rw [hin]
    cases hphase <;> exact Bool.and_false _
  have hnext : ∀ p : Piece, (s.leave call p).reap.task? call = some p.task := fun p => by
    rw [task?_reap, task?_leave_self hslot]
  by_cases hawaits : s.state.awaitsTimer session = true
  · obtain ⟨_, _, hnone⟩ := State.awaitsTimer_iff.mp hawaits
    have hundone : ({ s.state with running := false, seen := s.state.seen.clear
                                   lastCycle := none } : State) = undone s.state := by
      rw [History.clear_eq_empty (sound_of_reachable hreach).seen_bounds]
      unfold undone
      rw [← hnone]
    have hp : slot.task.piece (s.context call) s.state =
        some ⟨undone s.state, next, [], [.note .startCancelled]⟩ := by
      rw [hin, ← hundone]
      cases hphase <;>
        simp only [Task.piece, Start.piece, State.rollBack_of_awaits hawaits, if_true]
    have hstate : (s.leave call ⟨undone s.state, next, [], [.note .startCancelled]⟩).reap.HasState
        (undone s.state) := hasState_reap _
    exact ⟨_, hnext _, onlyAt_leave s call rfl,
      Or.inl ⟨hawaits, hstate.eq_of_no_timer rfl, apply_step_of_piece hslot hfree hp⟩⟩
  · have hp : slot.task.piece (s.context call) s.state = some ⟨s.state, next, [], []⟩ := by
      rw [hin]
      cases hphase <;>
        simp only [Task.piece, Start.piece, State.rollBack_of_not_awaits hawaits,
          Bool.false_eq_true, if_false]
    exact ⟨_, hnext _, onlyAt_leave s call rfl,
      Or.inr ⟨hawaits, hasState_reap _, apply_step_of_piece hslot hfree hp⟩⟩

/-- The session of a start that was dropped has no timer as long as it runs. -/
theorem awaits_of_cancelled {s : System} {call session : Nat} (hreach : Reachable s)
    (htask : s.task? call = some (.start (.cancelled session))) :
    s.state.awaitsTimer session = true ↔ s.state.running = true ∧ s.state.session = session := by
  rw [State.awaitsTimer_iff]
  refine ⟨fun ⟨hrun, hsession, _⟩ => ⟨hrun, hsession⟩, fun ⟨hrun, hsession⟩ => ?_⟩
  have hpending : s.IsPendingStart call := ⟨_, htask, congrArg Role.opening hsession.symm⟩
  exact ⟨hrun, hsession,
    (lifecycle_of_reachable hreach).timer_of_opening (isPendingStart_iff.mp hpending)⟩

/-- A start that has gone through the section that installs the timer leaves its session with one,
or over. -/
theorem not_awaits_of_leaving {s : System} {call session : Nat} (hreach : Reachable s)
    (htask : s.task? call = some (.start (.leaving session))) :
    ¬ s.state.awaitsTimer session = true := by
  intro hawaits
  obtain ⟨hrun, hsession, hnone⟩ := State.awaitsTimer_iff.mp hawaits
  obtain ⟨slot, hslot, hin⟩ := task?_eq_some_iff.mp htask
  have hrole : s.role call = .leaving s.state.session := by
    rw [role_of_getElem? hslot, hsession]
    exact Slot.role_eq_leaving_iff.mpr (congrArg Task.role hin)
  exact (lifecycle_of_reachable hreach).timer_of_leaving hrole hrun hnone

/-- Until its guard runs, nothing happens to a start that was dropped. -/
theorem cancelled_of_run {s t : System} {call session : Nat} {events : List Event}
    {effects : List Effect} (htask : s.task? call = some (.start (.cancelled session)))
    (hnot : .step call ∉ events) (h : s.run events = some (t, effects)) :
    t.task? call = some (.start (.cancelled session)) := by
  induction events generalizing s effects with
  | nil =>
      cases h
      exact htask
  | cons e rest ih =>
      obtain ⟨u, told, later, happly, hrest, _⟩ := run_cons_eq_some_iff.mp h
      refine ih ?_ (fun hmem => hnot (List.mem_cons_of_mem e hmem)) hrest
      have hfate := fate_of_apply happly call
      rw [htask] at hfate
      generalize u.task? call = behind at hfate ⊢
      generalize hbefore : some (Task.start (.cancelled session)) = before at hfate ⊢
      cases hfate with
      | kept => rfl
      | called | spawned => exact absurd hbefore nofun
      | stepped he => exact absurd (he ▸ List.mem_cons_self) hnot
      | delivered _ hnext =>
          cases hbefore
          exact absurd hnext nofun
      | dropped _ hsuspended =>
          cases hbefore
          exact absurd hsuspended nofun

/-! ## Starting again -/

/-- A poller that has stopped stays so until a start takes effect. -/
theorem stopped_of_run {s t : System} {events : List Event} {effects : List Effect}
    (hstop : s.state.running = false) (hnone : .start ∉ Effect.kinds effects)
    (h : s.run events = some (t, effects)) : t.state.running = false := by
  induction events generalizing s effects with
  | nil =>
      cases h
      exact hstop
  | cons e rest ih =>
      obtain ⟨u, told, later, happly, hrest, rfl⟩ := run_cons_eq_some_iff.mp h
      rw [Effect.kinds_append, List.mem_append] at hnone
      refine ih ?_ (fun hmem => hnone (Or.inr hmem)) hrest
      have hcount := starts_of_apply happly
      rw [List.count_eq_zero.mpr fun hmem => hnone (Or.inl hmem), hstop] at hcount
      cases hrun : u.state.running with
      | false => rfl
      | true =>
          rw [hrun, Bool.toNat_false, Bool.toNat_true] at hcount
          omega

/-- A call that begins in a stopped poller opens the next session and begins its request. -/
theorem starts_of_stopped {s : System} {call : Nat} {options : Options} (hreach : Reachable s)
    (hstop : s.state.running = false)
    (hslot : s.slots[call]? = some ⟨.start (.entering options), false⟩) :
    ∃ t told u, s.apply (.step call) = some (t, told) ∧ .start ∈ Effect.kinds told ∧
      t.state.running = true ∧ t.state.session = s.state.session + 1 ∧
      t.apply (.step call) =
        some (u, [.request call (s.state.config.merge options).config.endpoint]) := by
  have htask : s.task? call = some (.start (.entering options)) :=
    task?_eq_some_iff.mpr ⟨_, hslot, rfl⟩
  obtain ⟨p, hp⟩ : ∃ p, Task.piece (s.context call) s.state (.start (.entering options)) =
      some p := by
    simp only [Task.piece, Start.piece, State.enter_of_stopped hstop]
    exact ⟨_, rfl⟩
  have happly := apply_step_of_piece hslot rfl hp
  have hrun := running_of_entering htask happly
  have hcount := starts_of_apply happly
  rw [hstop, hrun, Bool.toNat_false, Bool.toNat_true] at hcount
  obtain ⟨u, hasks⟩ := asks_of_stopped hreach htask hstop happly
  exact ⟨_, _, u, happly, List.count_pos_iff.mp (by omega), hrun,
    session_of_entering htask hstop happly, hasks⟩

/-- The poller has stopped, and the next start takes effect, whenever it comes: it opens the next
session and asks the backend at once. -/
def RestartsAtOnce (s : System) : Prop :=
  ∀ events t effects, s.run events = some (t, effects) → .start ∉ Effect.kinds effects →
    t.state.running = false ∧
    ∀ call options, t.slots[call]? = some ⟨.start (.entering options), false⟩ →
      ∃ u told v, t.apply (.step call) = some (u, told) ∧ .start ∈ Effect.kinds told ∧
        u.state.running = true ∧ u.state.session = t.state.session + 1 ∧
        u.apply (.step call) =
          some (v, [.request call (t.state.config.merge options).config.endpoint])

theorem restartsAtOnce_of_stopped {s : System} (hreach : Reachable s)
    (hstop : s.state.running = false) : s.RestartsAtOnce := by
  intro events t effects hrun hnone
  have hstopped := stopped_of_run hstop hnone hrun
  exact ⟨hstopped, fun call options hslot =>
    starts_of_stopped (hreach.run hrun) hstopped hslot⟩

/-! ## What becomes of a start -/

/-- Only the guard of a start that was dropped is seen to undo a session, and only the session of
that start. -/
theorem cancelled_of_mem {s t : System} {e : Event} {told : List Effect} (hreach : Reachable s)
    (h : s.apply e = some (t, told)) (hseen : .note .startCancelled ∈ told) :
    ∃ call session, e = .step call ∧ s.task? call = some (.start (.cancelled session)) ∧
      s.state.running = true ∧ s.state.session = session := by
  have hkind : Effect.kind (.note .startCancelled) = .halt := rfl
  obtain ⟨u, hact, rfl⟩ := apply_eq_some_iff.mp h
  cases act_eq_some_iff.mp hact with
  | @step call slot p hslot _ hp =>
      have htask : s.task? call = some slot.task := task?_eq_some_iff.mpr ⟨slot, hslot, rfl⟩
      have hdeed := Task.deed_of_piece hp
      generalize slot.task = task at hdeed htask
      cases hdeed with
      | @undo session _ _ hphase hawaits =>
          cases hphase with
          | returns => exact absurd hawaits (not_awaits_of_leaving hreach htask)
          | vanishes =>
              obtain ⟨hrun, hsession, _⟩ := State.awaitsTimer_iff.mp hawaits
              exact ⟨call, session, rfl, htask, hrun, hsession⟩
      | enter =>
          have hentered := Effect.kind_mem_kinds hseen (by rw [hkind]; exact nofun)
          rw [State.kinds_of_start, hkind] at hentered
          exact absurd hentered (by decide)
      | cycle _ hstep =>
          rcases hstep.asks_or_silent with ⟨_, _, _, _, _, rfl⟩ | ⟨hother, _⟩
          · exact absurd (List.mem_singleton.mp hseen) nofun
          · exact absurd (hkind.symm.trans (hother _ hseen)) nofun
      | firstOver | arm | scheduledOver => exact absurd (List.mem_singleton.mp hseen) nofun
      | refuse | pass | release | lieDown | retire | wake =>
          exact absurd hseen List.not_mem_nil
  | configure =>
      rcases List.mem_append.mp hseen with hnote | hanswer
      · exact absurd (hkind.symm.trans (State.kind_of_mem_mergeNotes hnote)) nofun
      · exact absurd (List.mem_singleton.mp hanswer) nofun
  | stop =>
      simp only [stop] at hseen
      split at hseen <;> split at hseen <;> simp at hseen
  | abort => cases List.mem_singleton.mp hseen
  | start | poll | deliver | drop | clearHistory | tick | retain | release =>
      exact absurd hseen List.not_mem_nil

/-- In every reachable poller:

* a start that is dropped while the request of its first cycle is on its way leaves its guard behind
  and the state as it is.  Whatever happens then, the guard is released in one step.  If the session
  of the start is still running, it is stopped, with an empty history and neither timer nor clock of
  requests, and the configuration stays; and the next start takes effect and asks the backend at
  once.  If the poller was stopped in between, or is in another session, the state stays as it is;
* a start that has gone through the section that installs the timer returns, and leaves the state as
  it is, whatever has happened since then;
* nothing else is seen to undo a session.

A poller that is given up by the last of these steps loses its timer. -/
theorem cancelled_start_rolls_back :
    (∀ (s : System) call session cycle, Reachable s →
      s.task? call = some (.start (.cycling session cycle)) → cycle.isWaiting = true →
      ∃ left, s.apply (.drop call) = some (left, []) ∧ left.state = s.state ∧
        s.OnlyAt call left ∧ left.task? call = some (.start (.cancelled session)) ∧
        ∀ between u seen, left.run between = some (u, seen) → .step call ∉ between →
          ∃ t, t.task? call = some .gone ∧ u.OnlyAt call t ∧
            ((u.state.running = true ∧ u.state.session = session ∧
                u.apply (.step call) = some (t, [.note .startCancelled]) ∧
                t.state = undone u.state ∧ t.RestartsAtOnce) ∨
              ((u.state.running = false ∨ u.state.session ≠ session) ∧
                u.apply (.step call) = some (t, []) ∧ t.HasState u.state))) ∧
    (∀ (s : System) call session, Reachable s →
      s.task? call = some (.start (.leaving session)) →
      ∃ t, s.apply (.step call) = some (t, []) ∧ t.HasState s.state ∧
        t.task? call = some (.start .returned) ∧ s.OnlyAt call t) ∧
    (∀ (s t : System) e told, Reachable s → s.apply e = some (t, told) →
      .note .startCancelled ∈ told →
      ∃ call session, e = .step call ∧ s.task? call = some (.start (.cancelled session)) ∧
        s.state.running = true ∧ s.state.session = session) := by
  refine ⟨?_, ?_, fun s t e told hreach happly hseen => cancelled_of_mem hreach happly hseen⟩
  · intro s call session cycle hreach htask hwaits
    obtain ⟨left, hdrop, hstate, honly, hguard⟩ := drop_in_first_cycle htask hwaits
    refine ⟨left, hdrop, hstate, honly, hguard, fun between u seen hrun hnot => ?_⟩
    have hlater : Reachable u := (hreach.apply hdrop).run hrun
    have hwaiting := cancelled_of_run hguard hnot hrun
    obtain ⟨t, hgone, hother, ⟨hawaits, hundone, happly⟩ | ⟨hawaits, hsame, happly⟩⟩ :=
      step_of_guard hlater hwaiting .vanishes
    · obtain ⟨hruns, hsession⟩ := (awaits_of_cancelled hlater hwaiting).mp hawaits
      have hstopped : t.state.running = false := by
        rw [hundone]
        rfl
      exact ⟨t, hgone, hother, Or.inl ⟨hruns, hsession, happly, hundone,
        restartsAtOnce_of_stopped (hlater.apply happly) hstopped⟩⟩
    · refine ⟨t, hgone, hother, Or.inr ⟨?_, happly, hsame⟩⟩
      rcases u.state.stale_or_current session with hstale | hcurrent
      · exact hstale
      · exact absurd ((awaits_of_cancelled hlater hwaiting).mpr hcurrent) hawaits
  · intro s call session hreach htask
    obtain ⟨t, hreturned, honly, ⟨hawaits, _⟩ | ⟨_, hsame, happly⟩⟩ :=
      step_of_guard hreach htask .returns
    · exact absurd hawaits (not_awaits_of_leaving hreach htask)
    · exact ⟨t, happly, hsame, hreturned, honly⟩

/-- The request of a first cycle is on its way when a single cycle brings a record in. -/
def recordedMeanwhile : List Event :=
  [.start .none, .step 0, .step 0, .tick (.ofMillis 2000), .poll, .step 1,
    .deliver 1 (.body "[1]"), .step 1]

theorem cancelled_start_rolls_back_of_recordedMeanwhile :
    ∃ s effects left t, (new "").run recordedMeanwhile = some (s, effects) ∧
      s.state.seen.size = 1 ∧ s.apply (.drop 0) = some (left, []) ∧
      left.apply (.step 0) = some (t, [.note .startCancelled]) ∧
      t.state = undone s.state ∧ t.RestartsAtOnce := by
  have hend : ((new "").run recordedMeanwhile).map (fun r =>
      (r.1.state.running, r.1.state.session, r.1.state.seen.size, r.1.task? 0)) =
      some (true, 1, 1,
        some (.start (.cycling 1 (.waiting 1 Config.standard.endpoint)))) := by decide +kernel
  obtain ⟨⟨s, effects⟩, hrun, hpair⟩ := Option.map_eq_some_iff.mp hend
  obtain ⟨hruns, hrest⟩ := Prod.mk.inj hpair
  obtain ⟨hsession, hrest⟩ := Prod.mk.inj hrest
  obtain ⟨hseen, htask⟩ := Prod.mk.inj hrest
  obtain ⟨left, hdrop, hstate, _, _, hguard⟩ :=
    cancelled_start_rolls_back.1 s 0 1 _ ⟨"", recordedMeanwhile, effects, hrun⟩ htask rfl
  obtain ⟨t, _, _, ⟨_, _, happly, hundone, hrestarts⟩ | ⟨hstale, _⟩⟩ :=
    hguard [] left [] rfl List.not_mem_nil
  · exact ⟨s, effects, left, t, hrun, hseen, hdrop, happly, hstate ▸ hundone, hrestarts⟩
  · rw [hstate] at hstale
    rcases hstale with hstop | hother
    · exact absurd (hruns.symm.trans hstop) Bool.true_eq_false.mp
    · exact absurd hsession hother

end System

end AlarmMonitor.Polling
