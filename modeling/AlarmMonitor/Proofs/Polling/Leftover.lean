import AlarmMonitor.Proofs.Polling.Lifecycle
import AlarmMonitor.Proofs.Polling.Request

/-!
# Work left over from earlier sessions

When a poller stops, calls may still wait for the backend and timers may still be asleep.
`Slot.Pending k` says of a task that it belongs to one of the first `k` sessions.  As long as none
of these is running, such a task does nothing to the rest of the poller, and what it becomes is
such a task again.

* `Slot.Pending.piece`, `System.pending_of_act`: the work left over goes its way and changes
  nothing else;
* `System.pending_of_stopped`: what a reachable poller has left over when it has stopped.
-/

set_option autoImplicit false

namespace AlarmMonitor.Polling

/-- A cycle of one of the first `k` sessions whose request has begun, and what can still come of
it. -/
inductive Cycle.Left (k : Nat) : Cycle → Prop where
  | waiting {session : Nat} {endpoint : String} (h : session ≤ k) : Left k (.waiting session endpoint)
  | answered {session : Nat} {endpoint : String} {reply : Backend.Reply} (h : session ≤ k) :
      Left k (.answered session endpoint reply)
  | discarded : Left k (.ended .discarded)
  | fetchFailed : Left k (.ended .fetchFailed)

/-- A task of one of the first `k` sessions that goes on after their end, at its place. -/
inductive Slot.Pending (k : Nat) : Slot → Prop where
  | start {session : Nat} {cycle : Cycle} {aborted : Bool} (hs : session ≤ k)
      (hc : cycle.Left k) : Pending k ⟨.start (.cycling session cycle), aborted⟩
  | poll {cycle : Cycle} {aborted : Bool} (hc : cycle.Left k) : Pending k ⟨.poll cycle, aborted⟩
  | arming {session : Nat} {aborted : Bool} (hs : session ≤ k) :
      Pending k ⟨.start (.arming session), aborted⟩
  | leaving {session : Nat} {aborted : Bool} (hs : session ≤ k) :
      Pending k ⟨.start (.leaving session), aborted⟩
  | cancelled {session : Nat} {aborted : Bool} (hs : session ≤ k) :
      Pending k ⟨.start (.cancelled session), aborted⟩
  | returned {aborted : Bool} : Pending k ⟨.start .returned, aborted⟩
  | gone {aborted : Bool} : Pending k ⟨.gone, aborted⟩
  /-- A timer was told to end where it is suspended. -/
  | timer {session : Nat} {phase : Timer}
      (h : (Task.timer session phase).isSuspended = true) :
      Pending k ⟨.timer session phase, true⟩

/-- A session up to `k` does not go on once the sessions that run are beyond it. -/
theorem State.not_awaits_of_le {s : State} {k session : Nat}
    (hbeyond : s.running = true → k < s.session) (h : session ≤ k) :
    ¬ s.awaitsTimer session = true := by
  intro hawaits
  obtain ⟨hrun, hsession, _⟩ := State.awaitsTimer_iff.mp hawaits
  have hlt := hbeyond hrun
  omega

namespace Cycle

/-- A cycle left over ends without anybody but the log noticing. -/
theorem Left.piece {k : Nat} {c : Context} {s : State} {wrap : Cycle → Task} {cycle : Cycle}
    {p : Piece} (h : cycle.Left k) (hbeyond : s.running = true → k < s.session)
    (hp : cycle.piece c s wrap = some p) :
    p.state = s ∧ p.spawned = [] ∧ (∃ next : Cycle, p.task = wrap next ∧ next.Left k) ∧
      ∃ n, p.effects = [.note n] ∧ n ≠ .startCancelled := by
  cases h with
  | waiting | discarded | fetchFailed => exact absurd hp nofun
  | answered hle =>
      rcases piece_answered hp with ⟨hend, hstate, hspawned, hnote⟩ | ⟨_, hrun, hsession⟩
      · refine ⟨hstate, hspawned, ?_, hnote⟩
        rcases hend with htask | ⟨htask, _⟩
        · exact ⟨_, htask, .fetchFailed⟩
        · exact ⟨_, htask, .discarded⟩
      · have hlt := hbeyond hrun
        omega

theorem Left.deliver {k : Nat} {cycle next : Cycle} {reply : Backend.Reply} (h : cycle.Left k)
    (hd : cycle.deliver reply = some next) : next.Left k := by
  cases h with
  | waiting hle =>
      cases Option.some.inj hd
      exact .answered hle
  | answered | discarded | fetchFailed => exact absurd hd nofun

end Cycle

namespace Slot

/-- A task left over changes nothing but itself, creates no task, undoes no session, and lets
nothing be seen but notes. -/
theorem Pending.piece {k : Nat} {slot : Slot} {c : Context} {s : State} {p : Piece}
    (h : slot.Pending k) (hbeyond : s.running = true → k < s.session)
    (hfree : (slot.aborted && slot.task.isSuspended) = false)
    (hp : slot.task.piece c s = some p) :
    p.state = s ∧ p.spawned = [] ∧ Pending k { slot with task := p.task } ∧
      ∀ x ∈ p.effects, ∃ n, x = .note n ∧ n ≠ .startCancelled := by
  have hnotes : ∀ {n : Note}, n ≠ .startCancelled →
      ∀ x ∈ [Effect.note n], ∃ n, x = .note n ∧ n ≠ .startCancelled :=
    fun hn x hx => ⟨_, List.mem_singleton.mp hx, hn⟩
  cases h with
  | @start session cycle aborted hs hc =>
      by_cases hend : ∃ outcome, cycle = .ended outcome
      · obtain ⟨outcome, rfl⟩ := hend
        cases Option.some.inj hp
        exact ⟨rfl, rfl, .arming hs, hnotes Note.noConfusion⟩
      · have hgoes : ∀ outcome, cycle ≠ .ended outcome := fun outcome heq => hend ⟨outcome, heq⟩
        have hinside := (Owner.piece_task (.start session) hgoes c s).symm.trans hp
        obtain ⟨hstate, hspawned, ⟨next, htask, hnext⟩, n, heffects, hn⟩ := hc.piece hbeyond hinside
        refine ⟨hstate, hspawned, ?_, heffects ▸ hnotes hn⟩
        rw [htask]
        exact .start hs hnext
  | @poll cycle aborted hc =>
      obtain ⟨hstate, hspawned, ⟨next, htask, hnext⟩, n, heffects, hn⟩ := hc.piece hbeyond hp
      refine ⟨hstate, hspawned, ?_, heffects ▸ hnotes hn⟩
      rw [htask]
      exact .poll hnext
  | arming hs =>
      have hawaits := State.not_awaits_of_le hbeyond hs
      simp only [Task.piece, Start.piece, State.arm_of_not_awaits hawaits, Bool.false_eq_true,
        if_false, Option.some.injEq] at hp
      subst hp
      exact ⟨rfl, rfl, .leaving hs, fun x hx => absurd hx List.not_mem_nil⟩
  | leaving hs =>
      have hawaits := State.not_awaits_of_le hbeyond hs
      simp only [Task.piece, Start.piece, State.rollBack_of_not_awaits hawaits, Bool.false_eq_true,
        if_false, Option.some.injEq] at hp
      subst hp
      exact ⟨rfl, rfl, .returned, fun x hx => absurd hx List.not_mem_nil⟩
  | cancelled hs =>
      have hawaits := State.not_awaits_of_le hbeyond hs
      simp only [Task.piece, Start.piece, State.rollBack_of_not_awaits hawaits, Bool.false_eq_true,
        if_false, Option.some.injEq] at hp
      subst hp
      exact ⟨rfl, rfl, .gone, fun x hx => absurd hx List.not_mem_nil⟩
  | returned | gone => exact absurd hp (Option.some_ne_none p).symm
  | timer hsuspended =>
      rw [hsuspended] at hfree
      exact absurd hfree.symm Bool.false_ne_true

theorem Pending.deliver {k : Nat} {slot : Slot} {next : Task} {reply : Backend.Reply}
    (h : slot.Pending k) (hd : slot.task.deliver reply = some next) :
    Pending k { slot with task := next } := by
  cases h with
  | start hs hc =>
      obtain ⟨cycle, hcycle, rfl⟩ := Option.map_eq_some_iff.mp hd
      exact .start hs (hc.deliver hcycle)
  | poll hc =>
      obtain ⟨cycle, hcycle, rfl⟩ := Option.map_eq_some_iff.mp hd
      exact .poll (hc.deliver hcycle)
  | arming | leaving | cancelled | returned | gone => exact absurd hd nofun
  | @timer session phase hsuspended =>
      cases phase with
      | cycling before =>
          obtain ⟨cycle, hcycle, rfl⟩ := Option.map_eq_some_iff.mp hd
          cases before with
          | waiting n endpoint =>
              cases Option.some.inj hcycle
              exact .timer rfl
          | ready | answered | showing | ended => exact absurd hcycle nofun
      | spawned | checking | sleeping | ended => exact absurd hd nofun

theorem Pending.drop {k : Nat} {slot : Slot} (h : slot.Pending k)
    (hsuspended : slot.task.isSuspended = true) :
    Pending k { slot with task := slot.task.dropped } := by
  cases h with
  | start hs _ => exact .cancelled hs
  | poll | timer => exact .gone
  | arming | leaving | cancelled | returned | gone => exact absurd hsuspended nofun

theorem Pending.abort {k : Nat} {slot : Slot} (h : slot.Pending k) :
    Pending k { slot with aborted := true } := by
  cases h with
  | start hs hc => exact .start hs hc
  | poll hc => exact .poll hc
  | arming hs => exact .arming hs
  | leaving hs => exact .leaving hs
  | cancelled hs => exact .cancelled hs
  | returned => exact .returned
  | gone => exact .gone
  | timer hsuspended => exact .timer hsuspended

/-- A cycle left over that has ended was discarded or has failed. -/
theorem Pending.outcome {k : Nat} {slot : Slot} {outcome : Outcome} (h : slot.Pending k)
    (hcycle : slot.task.cycle? = some (.ended outcome)) :
    outcome = .discarded ∨ outcome = .fetchFailed := by
  have hleft : ∀ {cycle : Cycle}, cycle.Left k → some cycle = some (.ended outcome) →
      outcome = .discarded ∨ outcome = .fetchFailed := by
    intro cycle hc heq
    cases heq
    cases hc with
    | discarded => exact Or.inl rfl
    | fetchFailed => exact Or.inr rfl
  cases h with
  | start _ hc => exact hleft hc hcycle
  | poll hc => exact hleft hc hcycle
  | arming | leaving | cancelled | returned | gone => exact absurd hcycle nofun
  | @timer session phase hsuspended =>
      cases phase with
      | cycling cycle =>
          cases hcycle
          exact absurd hsuspended nofun
      | spawned | checking | sleeping | ended => exact absurd hcycle nofun

end Slot

namespace Task

/-- Has the call not begun? -/
def isUnbegun : Task → Bool
  | .start (.entering _) => true
  | .poll .ready => true
  | _ => false

theorem piece_of_finished {t : Task} (h : t.isFinished = true) (c : Context) (s : State) :
    t.piece c s = none := by
  cases t with
  | start phase =>
      cases phase with
      | returned => rfl
      | entering | cycling | arming | leaving | cancelled => exact absurd h nofun
  | poll cycle =>
      cases cycle with
      | ended => rfl
      | ready | waiting | answered | showing => exact absurd h nofun
  | timer session phase =>
      cases phase with
      | ended => rfl
      | spawned | checking | sleeping | cycling => exact absurd h nofun
  | gone => rfl

theorem deliver_of_finished {t : Task} (h : t.isFinished = true) (reply : Backend.Reply) :
    t.deliver reply = none := by
  cases t with
  | start phase =>
      cases phase with
      | cycling => exact absurd h nofun
      | entering | arming | leaving | cancelled | returned => rfl
  | poll cycle =>
      cases cycle with
      | ended => rfl
      | ready | waiting | answered | showing => exact absurd h nofun
  | timer session phase =>
      cases phase with
      | cycling => exact absurd h nofun
      | spawned | checking | sleeping | ended => rfl
  | gone => rfl

theorem idle_of_finished {t : Task} (h : t.isFinished = true) :
    t.isPendingCall = false ∧ t.isSuspended = false := by
  cases t with
  | start phase =>
      cases phase with
      | returned => exact ⟨rfl, rfl⟩
      | entering | cycling | arming | leaving | cancelled => exact absurd h nofun
  | poll cycle =>
      cases cycle with
      | ended => exact ⟨rfl, rfl⟩
      | ready | waiting | answered | showing => exact absurd h nofun
  | timer session phase =>
      cases phase with
      | ended => exact ⟨rfl, rfl⟩
      | spawned | checking | sleeping | cycling => exact absurd h nofun
  | gone => exact ⟨rfl, rfl⟩

end Task

namespace System

/-! ## Transitions of the work left over -/

/-- Two systems that differ at one place only. -/
structure DiffersAt (id : Nat) (s u : System) : Prop where
  hint : u.hint = s.hint
  now : u.now = s.now
  handles : u.handles = s.handles
  state : u.state = s.state
  length : u.slots.length = s.slots.length
  others : ∀ {place}, place ≠ id → u.slots[place]? = s.slots[place]?

theorem differsAt_setTask (s : System) (id : Nat) (t : Task) : DiffersAt id s (s.setTask id t) :=
  ⟨rfl, rfl, rfl, rfl, length_setTask s id t, fun h => getElem?_setTask_ne h t⟩

theorem differsAt_markAborted (s : System) (id : Nat) : DiffersAt id s (s.markAborted id) :=
  ⟨rfl, rfl, rfl, rfl, length_markAborted s id, getElem?_markAborted_ne⟩

/-- A piece that leaves the state alone and creates no task leaves all other places alone. -/
theorem differsAt_leave {s : System} {id : Nat} {p : Piece} (hstate : p.state = s.state)
    (hspawned : p.spawned = []) : DiffersAt id s (s.leave id p) := by
  have hslots : (s.leave id p).slots = (s.setTask id p.task).slots :=
    slots_leave_of_spawned_nil hspawned
  refine ⟨rfl, rfl, rfl, hstate, ?_, fun h => ?_⟩
  · rw [hslots, length_setTask]
  · rw [hslots, getElem?_setTask_ne h]

/-- Nothing happens to a task that has come to its end. -/
theorem act_of_finished {s : System} {e : Event} {id : Nat} {slot : Slot}
    (hslot : s.slots[id]? = some slot) (hfinished : slot.task.isFinished = true)
    (he : e.task? = some id) : s.act e = none := by
  have hsame : ∀ {other : Slot}, s.slots[id]? = some other → other = slot :=
    fun hother => Option.some.inj (hother.symm.trans hslot)
  obtain ⟨hcall, hsuspended⟩ := Task.idle_of_finished hfinished
  rw [Option.eq_none_iff_forall_not_mem]
  rintro ⟨u, effects⟩ h
  cases act_eq_some_iff.mp h with
  | step hother _ hp =>
      cases he
      rw [hsame hother, Task.piece_of_finished hfinished] at hp
      exact absurd hp nofun
  | deliver hother hnext =>
      cases he
      rw [hsame hother, Task.deliver_of_finished hfinished] at hnext
      exact absurd hnext nofun
  | abort hother hpending =>
      cases he
      rw [hsame hother, hcall] at hpending
      exact absurd hpending nofun
  | drop hother hwaits =>
      cases he
      rw [hsame hother, hsuspended] at hwaits
      exact absurd hwaits nofun
  | start | poll | configure | stop | clearHistory | tick | retain | release =>
      exact absurd he nofun

/-- Whatever happens to a task left over stays at its place, and is seen by its log at most. -/
theorem pending_of_act {s u : System} {e : Event} {effects : List Effect} {id k : Nat}
    {slot : Slot} (hslot : s.slots[id]? = some slot) (hpending : slot.Pending k)
    (hbeyond : s.state.running = true → k < s.state.session) (he : e.task? = some id)
    (h : s.act e = some (u, effects)) :
    DiffersAt id s u ∧ (∃ next, u.slots[id]? = some next ∧ next.Pending k) ∧
      ∀ x ∈ effects, (∃ n, x = .note n ∧ n ≠ .startCancelled) ∨ x = .aborted id := by
  have hsame : ∀ {other : Slot}, s.slots[id]? = some other → other = slot :=
    fun hother => Option.some.inj (hother.symm.trans hslot)
  cases act_eq_some_iff.mp h with
  | step hother hfree hp =>
      cases he
      cases hsame hother
      obtain ⟨hstate, hspawned, hnext, heffects⟩ := hpending.piece hbeyond hfree hp
      refine ⟨differsAt_leave hstate hspawned, ⟨_, ?_, hnext⟩, fun x hx => Or.inl (heffects x hx)⟩
      rw [slots_leave_of_spawned_nil hspawned, getElem?_setTask_self hslot]
  | @deliver _ _ _ next hother hd =>
      cases he
      cases hsame hother
      exact ⟨differsAt_setTask s id next, ⟨_, getElem?_setTask_self hslot next, hpending.deliver hd⟩,
        fun x hx => absurd hx List.not_mem_nil⟩
  | abort =>
      cases he
      exact ⟨differsAt_markAborted s id, ⟨_, getElem?_markAborted_self hslot, hpending.abort⟩,
        fun x hx => Or.inr (List.mem_singleton.mp hx)⟩
  | drop hother hsuspended =>
      cases he
      cases hsame hother
      exact ⟨differsAt_setTask s id _, ⟨_, getElem?_setTask_self hslot _, hpending.drop hsuspended⟩,
        fun x hx => absurd hx List.not_mem_nil⟩
  | start | poll | configure | stop | clearHistory | tick | retain | release =>
      exact absurd he nofun

/-! ## What a stopped poller has left over -/

/-- No task of the poller is in the middle of a stretch between two waits. -/
def Quiet (s : System) : Prop :=
  ∀ slot ∈ s.slots, slot.task.isSuspended = true ∨ slot.task.isFinished = true

instance (s : System) : Decidable s.Quiet :=
  inferInstanceAs
    (Decidable (∀ slot ∈ s.slots, slot.task.isSuspended = true ∨ slot.task.isFinished = true))

/-- A task of a stopped poller has come to its end, is left over, or is a call that has not
begun. -/
theorem pending_of_stopped {s : System} (hreach : Reachable s) (hstop : s.state.running = false)
    (hquiet : s.Quiet) {id : Nat} {slot : Slot} (hslot : s.slots[id]? = some slot)
    (hbegun : slot.task.isUnbegun = false) :
    slot.task.isFinished = true ∨ slot.Pending s.state.session := by
  have hlife := lifecycle_of_reachable hreach
  have hwaits : slot.task.isFinished = false → slot.task.isSuspended = true := by
    intro hgoes
    refine (hquiet slot (List.mem_of_getElem? hslot)).resolve_right fun hfinished => ?_
    rw [hgoes] at hfinished
    exact absurd hfinished nofun
  have hleft : ∀ {cycle : Cycle}, slot.task.cycle? = some cycle → cycle.isWaiting = true →
      cycle.Left s.state.session := by
    intro cycle hcycle hwaiting
    have hin : s.cycle? id = some cycle :=
      Option.bind_eq_some_iff.mpr
        ⟨slot.task, task?_eq_some_iff.mpr ⟨slot, hslot, rfl⟩, hcycle⟩
    cases cycle with
    | waiting n endpoint => exact .waiting (session_of_request_le hreach hin rfl)
    | answered n endpoint reply => exact .answered (session_of_request_le hreach hin rfl)
    | ready | showing | ended => exact absurd hwaiting nofun
  have hrole : s.role id = slot.role := role_of_getElem? hslot
  obtain ⟨t, aborted⟩ := slot
  cases t with
  | start phase =>
      cases phase with
      | entering options => exact absurd hbegun nofun
      | cycling session cycle =>
          have hopening : s.role id = .opening session :=
            hrole.trans (Slot.role_eq_opening_iff.mpr rfl)
          exact Or.inr (.start (hlife.opening_le hopening) (hleft rfl (hwaits rfl)))
      | arming | leaving | cancelled => exact absurd (hwaits rfl) nofun
      | returned => exact Or.inl rfl
  | poll cycle =>
      cases cycle with
      | ready => exact absurd hbegun nofun
      | waiting | answered => exact Or.inr (.poll (hleft rfl rfl))
      | showing => exact absurd (hwaits rfl) nofun
      | ended => exact Or.inl rfl
  | timer session phase =>
      cases hfinished : (Task.timer session phase).isFinished with
      | true => exact Or.inl rfl
      | false =>
          refine Or.inr ?_
          cases aborted with
          | true => exact .timer (hwaits hfinished)
          | false =>
              -- a timer that was not told to end would be installed
              have hlive : s.role id = .timer session := by
                refine hrole.trans (Slot.role_eq_timer_iff.mpr ⟨?_, rfl⟩)
                cases phase with
                | ended => exact absurd hfinished nofun
                | spawned | checking | sleeping | cycling => rfl
              have htimer := hlife.role_timer_iff.mp hlive
              rw [((sound_of_reachable hreach).stopped hstop).2.2] at htimer
              exact absurd htimer nofun
  | gone => exact Or.inl rfl

end System

end AlarmMonitor.Polling
