import AlarmMonitor.Proofs.Polling.Call
import AlarmMonitor.Proofs.Polling.Restart

/-!
# A poller at rest

A poller is at rest when it has stopped and each of its tasks has come to its end, has not begun, or
is left over from a session that is over.  As long as nobody starts it again, it stays at rest, and
neither asks the backend nor shows a text.

* `AtRest.apply`, `AtRest.run`: what happens to a poller at rest;
* `atRest_of_stop`: stopping a poller brings it to rest unless a task of it is in the middle of a
  stretch between two waits.
-/

set_option autoImplicit false

namespace AlarmMonitor.Polling

/-- Is the effect neither a request nor a text? -/
def Effect.isSilent : Effect → Bool
  | .request .. | .show _ => false
  | .note _ | .configured _ | .spawned _ | .aborted _ => true

/-- Is the task a start that has not begun? -/
def Task.isEntering : Task → Bool
  | .start (.entering _) => true
  | _ => false

/-- The only call that has not begun and is no start is a call that runs one cycle. -/
theorem Task.eq_poll_of_isUnbegun {t : Task} (h : t.isUnbegun = true)
    (hstart : t.isEntering = false) : t = .poll .ready := by
  cases t with
  | start phase =>
      cases phase with
      | entering => exact absurd hstart nofun
      | cycling | arming | leaving | cancelled | returned => exact absurd h nofun
  | poll cycle =>
      cases cycle with
      | ready => rfl
      | waiting | answered | showing | ended => exact absurd h nofun
  | timer | gone => exact absurd h nofun

/-- A call that has not begun waits for no reply. -/
theorem Task.deliver_of_isUnbegun {t : Task} (h : t.isUnbegun = true) (reply : Backend.Reply) :
    t.deliver reply = none := by
  cases t with
  | start phase =>
      cases phase with
      | cycling => exact absurd h nofun
      | entering | arming | leaving | cancelled | returned => rfl
  | poll cycle =>
      cases cycle with
      | ready => rfl
      | waiting | answered | showing | ended => exact absurd h nofun
  | timer | gone => exact absurd h nofun

/-- A call that has not begun leaves nothing behind when it is dropped. -/
theorem Task.dropped_of_isUnbegun {t : Task} (h : t.isUnbegun = true) : t.dropped = .gone := by
  cases t with
  | start phase =>
      cases phase with
      | entering => rfl
      | cycling | arming | leaving | cancelled | returned => exact absurd h nofun
  | poll | timer | gone => rfl

namespace System

/-- Does the event start nothing?  Nobody begins a start, and no start takes its first piece. -/
def startsNothing (s : System) : Event → Bool
  | .start _ => false
  | .step id => !(s.task? id).any (·.isEntering)
  | _ => true

/-- The poller has stopped, and what is left of its tasks belongs to one of the first `k`
sessions. -/
structure AtRest (k : Nat) (s : System) : Prop where
  stopped : s.state.running = false
  seen : s.state.seen = .empty
  timer : s.state.timer = none
  tasks : ∀ {id : Nat} {slot : Slot}, s.slots[id]? = some slot →
    slot.task.isFinished = true ∨ slot.task.isUnbegun = true ∨ slot.Pending k

namespace AtRest

variable {k : Nat} {s u : System}

/-- Another state of a poller that has stopped. -/
theorem replace (hs : s.AtRest k) {state : State} (hstopped : state.running = false)
    (hseen : state.seen = .empty) (htimer : state.timer = none) :
    AtRest k { s with state } := ⟨hstopped, hseen, htimer, hs.tasks⟩

/-- Another task at one place. -/
theorem put (hs : s.AtRest k) {id : Nat} {slot : Slot} (hd : DiffersAt id s u)
    (hslot : u.slots[id]? = some slot)
    (htask : slot.task.isFinished = true ∨ slot.task.isUnbegun = true ∨ slot.Pending k) :
    u.AtRest k := by
  refine ⟨hd.state ▸ hs.stopped, hd.state ▸ hs.seen, hd.state ▸ hs.timer, ?_⟩
  intro place other hother
  by_cases hplace : place = id
  · rw [hplace, hslot] at hother
    cases hother
    exact htask
  · rw [hd.others hplace] at hother
    exact hs.tasks hother

/-- What happens to a call that has not begun: it is not a start, and ends at once. -/
theorem act_unbegun (hs : s.AtRest k) {e : Event} {id : Nat} {slot : Slot} {effects : List Effect}
    (hslot : s.slots[id]? = some slot) (hunbegun : slot.task.isUnbegun = true)
    (he : s.startsNothing e = true) (htarget : e.task? = some id)
    (h : s.act e = some (u, effects)) :
    u.AtRest k ∧ ∀ x ∈ effects, x.isSilent = true := by
  have hsame : ∀ {other : Slot}, s.slots[id]? = some other → other = slot :=
    fun hother => Option.some.inj (hother.symm.trans hslot)
  cases act_eq_some_iff.mp h with
  | @step _ _ p hother _ hp =>
      cases htarget
      cases hsame hother
      have hpoll : slot.task = .poll .ready := by
        refine Task.eq_poll_of_isUnbegun hunbegun ?_
        have hfound : s.task? id = some slot.task := task?_eq_some_iff.mpr ⟨slot, hslot, rfl⟩
        simpa only [startsNothing, hfound, Option.any_some, Bool.not_eq_true'] using he
      rw [hpoll] at hp
      simp only [Task.piece, Cycle.piece, Cycle.step, State.openCycle_of_stopped hs.stopped,
        Option.map_some, Option.some.injEq] at hp
      subst hp
      have hended : (s.leave id ⟨s.state, .poll (.ended .notRunning), [], []⟩).slots[id]? =
          some { slot with task := .poll (.ended .notRunning) } := by
        rw [slots_leave_of_spawned_nil rfl]
        exact getElem?_setTask_self hslot _
      exact ⟨hs.put (differsAt_leave rfl rfl) hended (Or.inl rfl),
        fun x hx => absurd hx List.not_mem_nil⟩
  | deliver hother hnext =>
      cases htarget
      rw [hsame hother, Task.deliver_of_isUnbegun hunbegun] at hnext
      exact absurd hnext (Option.some_ne_none _).symm
  | abort =>
      cases htarget
      refine ⟨hs.put (differsAt_markAborted s id) (getElem?_markAborted_self hslot)
        (Or.inr (Or.inl hunbegun)), fun x hx => ?_⟩
      rw [List.mem_singleton.mp hx]
      rfl
  | drop hother =>
      cases htarget
      cases hsame hother
      refine ⟨hs.put (differsAt_setTask s id _) (getElem?_setTask_self hslot _) (Or.inl ?_),
        fun x hx => absurd hx List.not_mem_nil⟩
      exact congrArg Task.isFinished (Task.dropped_of_isUnbegun hunbegun)
  | start | poll | configure | stop | clearHistory | tick | retain | release =>
      exact absurd htarget (Option.some_ne_none id).symm

/-- What happens to any one task. -/
theorem act_task (hs : s.AtRest k) {e : Event} {id : Nat} {effects : List Effect}
    (he : s.startsNothing e = true) (htarget : e.task? = some id)
    (h : s.act e = some (u, effects)) :
    u.AtRest k ∧ ∀ x ∈ effects, x.isSilent = true := by
  obtain ⟨slot, hslot⟩ : ∃ slot, s.slots[id]? = some slot := by
    cases act_eq_some_iff.mp h with
    | step hslot | deliver hslot | abort hslot | drop hslot =>
        cases htarget
        exact ⟨_, hslot⟩
    | start | poll | configure | stop | clearHistory | tick | retain | release =>
        exact absurd htarget nofun
  rcases hs.tasks hslot with hfinished | hunbegun | hpending
  · rw [act_of_finished hslot hfinished htarget] at h
    exact absurd h nofun
  · exact hs.act_unbegun hslot hunbegun he htarget h
  · have hbeyond : s.state.running = true → k < s.state.session := by
      intro hrun
      rw [hs.stopped] at hrun
      exact absurd hrun nofun
    obtain ⟨hd, ⟨next, hnext, hleft⟩, heffects⟩ := pending_of_act hslot hpending hbeyond htarget h
    refine ⟨hs.put hd hnext (Or.inr (Or.inr hleft)), fun x hx => ?_⟩
    rcases heffects x hx with ⟨n, rfl, _⟩ | rfl
    · rfl
    · rfl

theorem act (hs : s.AtRest k) {e : Event} {effects : List Effect}
    (he : s.startsNothing e = true) (h : s.act e = some (u, effects)) :
    u.AtRest k ∧ ∀ x ∈ effects, x.isSilent = true := by
  have hnothing : ∀ x ∈ ([] : List Effect), x.isSilent = true :=
    fun x hx => absurd hx List.not_mem_nil
  have hclear : s.state.seen.clear = .empty := by
    rw [hs.seen]
    exact History.clear_eq_empty rfl
  cases act_eq_some_iff.mp h with
  | start => exact absurd he nofun
  | step | deliver | abort | drop => exact hs.act_task he rfl h
  | poll =>
      refine ⟨⟨hs.stopped, hs.seen, hs.timer, ?_⟩, hnothing⟩
      intro place slot hslot
      rcases getElem?_addTask_eq_some_iff.mp hslot with hold | ⟨_, rfl⟩
      · exact hs.tasks hold
      · exact Or.inr (Or.inl rfl)
  | configure =>
      refine ⟨hs.replace hs.stopped hs.seen hs.timer, fun x hx => ?_⟩
      rcases List.mem_append.mp hx with hnote | hlast
      · obtain ⟨n, _, rfl⟩ := List.mem_map.mp hnote
        rfl
      · rw [List.mem_singleton.mp hlast]
        rfl
  | stop =>
      have hstop : s.stop = ({ s with state := s.state.stop }, []) := by
        simp only [System.stop, hs.timer, hs.stopped, Bool.false_eq_true, if_false]
      rw [hstop]
      exact ⟨hs.replace rfl hclear rfl, hnothing⟩
  | clearHistory => exact ⟨hs.replace hs.stopped hclear hs.timer, hnothing⟩
  | tick | retain | release => exact ⟨⟨hs.stopped, hs.seen, hs.timer, hs.tasks⟩, hnothing⟩

/-- A poller at rest that nobody starts stays at rest, and neither asks the backend nor shows a
text. -/
theorem apply (hs : s.AtRest k) {e : Event} {effects : List Effect}
    (he : s.startsNothing e = true) (h : s.apply e = some (u, effects)) :
    u.AtRest k ∧ ∀ x ∈ effects, x.isSilent = true := by
  obtain ⟨v, hact, rfl⟩ := apply_eq_some_iff.mp h
  obtain ⟨hv, heffects⟩ := hs.act he hact
  rw [reap_of_no_timer hv.timer]
  exact ⟨hv, heffects⟩

theorem run (hs : s.AtRest k) {events : List Event} {effects : List Effect}
    (he : ∀ e ∈ events, ∀ p : System, p.startsNothing e = true)
    (h : s.run events = some (u, effects)) :
    u.AtRest k ∧ ∀ x ∈ effects, x.isSilent = true := by
  induction events generalizing s effects with
  | nil =>
      cases h
      exact ⟨hs, fun x hx => absurd hx List.not_mem_nil⟩
  | cons e rest ih =>
      obtain ⟨v, first, later, happly, hrest, rfl⟩ := run_cons_eq_some_iff.mp h
      obtain ⟨hv, hfirst⟩ := hs.apply (he e List.mem_cons_self s) happly
      obtain ⟨hu, hlater⟩ := ih hv (fun e' he' => he e' (List.mem_cons_of_mem e he')) hrest
      refine ⟨hu, fun x hx => ?_⟩
      rcases List.mem_append.mp hx with hx | hx
      · exact hfirst x hx
      · exact hlater x hx

end AtRest

/-! ## Coming to rest -/

/-- Where the tasks are the same, none of them is in the middle of a stretch. -/
theorem Quiet.congr {s t : System} (hs : s.Quiet)
    (htask : ∀ place, t.task? place = s.task? place) : t.Quiet := by
  intro slot hmem
  obtain ⟨place, hplace⟩ := List.mem_iff_getElem?.mp hmem
  have hfound : s.task? place = some slot.task :=
    (htask place).symm.trans (task?_eq_some_iff.mpr ⟨slot, hplace, rfl⟩)
  obtain ⟨slot', hslot', heq⟩ := task?_eq_some_iff.mp hfound
  rw [← heq]
  exact hs slot' (List.mem_of_getElem? hslot')

theorem Quiet.abort {s t : System} (hs : s.Quiet) {id : Nat} {effects : List Effect}
    (h : s.apply (.abort id) = some (t, effects)) : t.Quiet := by
  obtain ⟨u, hact, rfl⟩ := apply_eq_some_iff.mp h
  cases act_eq_some_iff.mp hact with
  | abort => exact hs.congr fun place => (task?_reap _ place).trans (task?_markAborted s id place)

/-- A poller that is stopped while none of its tasks is in the middle of a stretch comes to rest,
and neither asks the backend nor shows a text. -/
theorem atRest_of_stop {s t : System} {effects : List Effect} (hreach : s.Reachable)
    (hquiet : s.Quiet) (h : s.apply .stop = some (t, effects)) :
    t.AtRest t.state.session ∧ ∀ x ∈ effects, x.isSilent = true := by
  have hreach' : t.Reachable := hreach.apply h
  obtain ⟨u, hact, rfl⟩ := apply_eq_some_iff.mp h
  cases act_eq_some_iff.mp hact with
  | stop =>
      have hstopped : s.stop.1.reap.state.running = false := by
        rw [running_reap, state_stop]
        rfl
      have hquiet' : s.stop.1.reap.Quiet :=
        hquiet.congr fun place => (task?_reap _ place).trans (task?_stop s place)
      obtain ⟨hseen, _, htimer⟩ := (sound_of_reachable hreach').stopped hstopped
      refine ⟨⟨hstopped, hseen, htimer, fun {id slot} hslot => ?_⟩, fun x hx => ?_⟩
      · cases hbegun : slot.task.isUnbegun with
        | true => exact Or.inr (Or.inl rfl)
        | false =>
            rcases pending_of_stopped hreach' hstopped hquiet' hslot hbegun with hover | hleft
            · exact Or.inl hover
            · exact Or.inr (Or.inr hleft)
      · have hsilent : ∀ x ∈ if s.state.running then [Effect.note .stopped] else [],
            x.isSilent = true := by
          intro x hx
          split at hx
          · rw [List.mem_singleton.mp hx]
            rfl
          · exact absurd hx List.not_mem_nil
        simp only [System.stop] at hx
        split at hx
        · rcases List.mem_cons.mp hx with rfl | hx
          · rfl
          · exact hsilent x hx
        · exact hsilent x hx

end System

end AlarmMonitor.Polling
