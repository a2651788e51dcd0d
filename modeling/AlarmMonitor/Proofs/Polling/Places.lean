import AlarmMonitor.Proofs.Polling.Transition

/-!
# The roles played at the places of a poller

A place plays the role of its task, except that a timer that was told to end plays no part any
more.  Seen through `System.role` most transitions change nothing: answers, aborted calls and
dropped tasks keep the role of their place, and new calls begin without one.

* `System.role_setTask_of_role_eq`, `System.role_addTask_of_other`: the roles stay as they are;
* `System.role_markAborted_of_timer`: a timer that is told to end gives its role up;
* `System.role_leave_self`, `System.role_leave_ne`: the roles behind a piece of a task.
-/

set_option autoImplicit false

namespace AlarmMonitor.Polling

/-- The role of a task at its place.  A timer that was told to end plays no part any more. -/
def Slot.role (slot : Slot) : Role :=
  match slot.task.role with
  | .timer session => if slot.aborted then .other else .timer session
  | r => r

namespace Slot

theorem role_eq_opening_iff {slot : Slot} {session : Nat} :
    slot.role = .opening session ↔ slot.task.role = .opening session := by
  unfold role
  split
  · rename_i h
    rw [h]
    constructor
    · intro hr
      split at hr <;> exact absurd hr nofun
    · exact nofun
  · exact Iff.rfl

theorem role_eq_leaving_iff {slot : Slot} {session : Nat} :
    slot.role = .leaving session ↔ slot.task.role = .leaving session := by
  unfold role
  split
  · rename_i h
    rw [h]
    constructor
    · intro hr
      split at hr <;> exact absurd hr nofun
    · exact nofun
  · exact Iff.rfl

theorem role_eq_timer_iff {slot : Slot} {session : Nat} :
    slot.role = .timer session ↔ slot.task.role = .timer session ∧ slot.aborted = false := by
  unfold role
  split
  · rename_i h
    rw [h]
    cases slot.aborted with
    | true => exact ⟨nofun, fun hr => absurd hr.2 nofun⟩
    | false => exact ⟨fun hr => ⟨hr, rfl⟩, fun hr => hr.1⟩
  · rename_i hother
    exact ⟨fun hr => absurd hr (hother session), fun hr => absurd hr.1 (hother session)⟩

/-- The role at a place depends on the role of the task and on whether it was told to end. -/
theorem role_congr {a b : Slot} (hrole : a.task.role = b.task.role)
    (haborted : a.aborted = b.aborted) : a.role = b.role := by
  unfold role
  rw [hrole, haborted]

theorem role_of_other {slot : Slot} (h : slot.task.role = .other) : slot.role = .other := by
  unfold role
  rw [h]

/-- A timer that was told to end plays no part, dropped or not. -/
theorem role_of_dropped_timer {slot : Slot} (htimer : slot.task.isTimer = true)
    (haborted : slot.aborted = true) :
    Slot.role { slot with task := slot.task.dropped } = slot.role := by
  obtain ⟨t, aborted⟩ := slot
  cases haborted
  cases t with
  | timer session phase => cases phase <;> rfl
  | start | poll | gone => exact absurd htimer nofun

/-- Telling a task to end matters to timers only. -/
theorem role_of_not_timer {slot : Slot} (h : ∀ session, slot.task.role ≠ .timer session) :
    slot.role = slot.task.role := by
  unfold role
  split
  · rename_i session hr
    exact absurd hr (h session)
  · rfl

end Slot

namespace Task

theorem role_of_isPendingCall {t : Task} (h : t.isPendingCall = true) (session : Nat) :
    t.role ≠ .timer session := by
  cases t with
  | start phase => cases phase <;> nofun
  | poll cycle => nofun
  | timer | gone => exact absurd h nofun

/-- A reply does not change the role of a task. -/
theorem role_of_deliver {t next : Task} {reply : Backend.Reply} (h : t.deliver reply = some next) :
    next.role = t.role := by
  cases t with
  | start phase =>
      cases phase with
      | cycling session cycle =>
          obtain ⟨_, _, rfl⟩ := Option.map_eq_some_iff.mp h
          rfl
      | entering | arming | leaving | cancelled | returned => exact absurd h nofun
  | poll cycle =>
      obtain ⟨_, _, rfl⟩ := Option.map_eq_some_iff.mp h
      rfl
  | timer session phase =>
      cases phase with
      | cycling cycle =>
          obtain ⟨_, _, rfl⟩ := Option.map_eq_some_iff.mp h
          rfl
      | spawned | checking | sleeping | ended => exact absurd h nofun
  | gone => exact absurd h nofun

/-- What is left of a dropped call has the role of the call. -/
theorem role_dropped {t : Task} (hsuspended : t.isSuspended = true) (hcall : t.isTimer = false) :
    t.dropped.role = t.role := by
  cases t with
  | start phase =>
      cases phase with
      | entering | cycling => rfl
      | arming | leaving | cancelled | returned => exact absurd hsuspended nofun
  | poll | gone => rfl
  | timer => exact absurd hcall nofun

end Task

namespace System

/-- The role played at a place. -/
def role (s : System) (place : Nat) : Role :=
  match s.slots[place]? with
  | some slot => slot.role
  | none => .other

theorem role_of_getElem? {s : System} {place : Nat} {slot : Slot}
    (h : s.slots[place]? = some slot) : s.role place = slot.role := by
  unfold role
  rw [h]

/-- Somebody plays every role but `other`. -/
theorem exists_slot_of_role {s : System} {place : Nat} {r : Role} (h : s.role place = r)
    (hr : r ≠ .other) : ∃ slot, s.slots[place]? = some slot ∧ slot.role = r := by
  unfold role at h
  split at h
  · rename_i slot hslot
    exact ⟨slot, hslot, h⟩
  · exact absurd h.symm hr

theorem role_congr {s t : System} {place : Nat} (h : t.slots[place]? = s.slots[place]?) :
    t.role place = s.role place := by
  unfold role
  rw [h]

theorem role_setTask_self {s : System} {id : Nat} {slot : Slot} (h : s.slots[id]? = some slot)
    (t : Task) : (s.setTask id t).role id = Slot.role { slot with task := t } :=
  role_of_getElem? (getElem?_setTask_self h t)

theorem role_setTask_ne {s : System} {id place : Nat} (h : place ≠ id) (t : Task) :
    (s.setTask id t).role place = s.role place :=
  role_congr (getElem?_setTask_ne h t)

/-- A task that keeps its role changes no role. -/
theorem role_setTask_of_role_eq {s : System} {id : Nat} {slot : Slot} {t : Task}
    (h : s.slots[id]? = some slot) (hr : Slot.role { slot with task := t } = slot.role)
    (place : Nat) : (s.setTask id t).role place = s.role place := by
  by_cases hplace : place = id
  · rw [hplace, role_setTask_self h, role_of_getElem? h, hr]
  · exact role_setTask_ne hplace t

theorem role_addTask_of_other {s : System} {t : Task} (h : t.role = .other) (place : Nat) :
    (s.addTask t).role place = s.role place := by
  by_cases hplace : place = s.slots.length
  · have hnew : (s.addTask t).slots[place]? = some ⟨t, false⟩ :=
      getElem?_addTask_eq_some_iff.mpr (Or.inr ⟨hplace, rfl⟩)
    have hnone : s.slots[place]? = none :=
      List.getElem?_eq_none (Nat.le_of_eq hplace.symm)
    rw [role_of_getElem? hnew, Slot.role_of_other h, role, hnone]
  · refine role_congr (Option.ext fun slot => ?_)
    rw [getElem?_addTask_eq_some_iff]
    exact ⟨fun h => h.resolve_right fun hr => hplace hr.1, Or.inl⟩

theorem role_markAborted_ne {s : System} {id place : Nat} (h : place ≠ id) :
    (s.markAborted id).role place = s.role place :=
  role_congr (getElem?_markAborted_ne h)

/-- A timer that is told to end plays no part any more. -/
theorem role_markAborted_of_timer {s : System} {id session : Nat}
    (h : s.role id = .timer session) : (s.markAborted id).role id = .other := by
  obtain ⟨slot, hslot, hrole⟩ := exists_slot_of_role h nofun
  rw [role_of_getElem? (getElem?_markAborted_self hslot)]
  unfold Slot.role
  rw [(Slot.role_eq_timer_iff.mp hrole).1]
  rfl

/-- Telling a call to end changes no role. -/
theorem role_markAborted_of_call {s : System} {id : Nat} {slot : Slot}
    (h : s.slots[id]? = some slot) (hcall : slot.task.isPendingCall = true) (place : Nat) :
    (s.markAborted id).role place = s.role place := by
  by_cases hplace : place = id
  · have hrole := Task.role_of_isPendingCall hcall
    rw [hplace, role_of_getElem? (getElem?_markAborted_self h), role_of_getElem? h,
      Slot.role_of_not_timer hrole]
    exact Slot.role_of_not_timer hrole
  · exact role_markAborted_ne hplace

/-! ## Behind a piece of a task -/

theorem role_leave_self {s : System} {id : Nat} {slot : Slot} {p : Piece}
    (h : s.slots[id]? = some slot) (hspawned : p.spawned = []) :
    (s.leave id p).role id = Slot.role { slot with task := p.task } := by
  unfold role
  rw [slots_leave_of_spawned_nil hspawned, getElem?_setTask_self h]

theorem role_leave_ne {s : System} {id place : Nat} {p : Piece} (hspawned : p.spawned = [])
    (h : place ≠ id) : (s.leave id p).role place = s.role place := by
  refine role_congr ?_
  rw [slots_leave_of_spawned_nil hspawned, getElem?_setTask_ne h]

end System

end AlarmMonitor.Polling
