import AlarmMonitor.Proofs.Polling.Places
import AlarmMonitor.Proofs.Polling.Run

/-!
# The lifecycle of a running period

Who looks after a running poller?  The start that opened its session, as long as it is pending,
and from then on the timer that it installed.  `System.Lifecycle` says so of all the tasks of a
poller at once, with what makes the statement pass from one transition to the next:

* `lifecycle_of_act`, `lifecycle_reap`: every transition keeps it;
* `lifecycle_of_reachable`: it holds of every reachable poller;
* `attended_by_start_or_timer`: a stopped poller is empty, a running one has either one pending
  start or one timer, and no timer is left over from an earlier session.
-/

set_option autoImplicit false

namespace AlarmMonitor.Polling

namespace System

/-! ## The invariant -/

/-- Which roles are played while the poller is in its present session. -/
structure Lifecycle (s : System) : Prop where
  /-- No session lies ahead. -/
  opening_le : ∀ {place n}, s.role place = .opening n → n ≤ s.state.session
  leaving_le : ∀ {place n}, s.role place = .leaving n → n ≤ s.state.session
  /-- A session is opened by one start. -/
  opening_unique : ∀ {a b n}, s.role a = .opening n → s.role b = .opening n → a = b
  /-- There is no timer yet while the start of the session is pending. -/
  timer_of_opening : ∀ {place}, s.role place = .opening s.state.session → s.state.timer = none
  /-- A start leaves the timer of its session behind, or no session. -/
  timer_of_leaving : ∀ {place}, s.role place = .leaving s.state.session →
    s.state.running = true → s.state.timer ≠ none
  /-- The installed timer is the only one that was not told to end. -/
  role_timer_iff : ∀ {place n}, s.role place = .timer n ↔ s.state.timer = some ⟨place, n⟩
  /-- A running poller without a timer is looked after by the start of its session. -/
  attended : s.isAlive = true → s.state.running = true → s.state.timer = none →
    ∃ place, s.role place = .opening s.state.session

theorem lifecycle_new (hint : String) : (new hint).Lifecycle where
  opening_le h := absurd h nofun
  leaving_le h := absurd h nofun
  opening_unique h := absurd h nofun
  timer_of_opening _ := rfl
  timer_of_leaving h := absurd h nofun
  role_timer_iff := ⟨nofun, nofun⟩
  attended _ hrun := absurd hrun nofun

/-- A transition that changes neither the roles nor the running period. -/
theorem Lifecycle.congr {s u : System} (hs : s.Lifecycle)
    (hc : u.state.control = s.state.control) (hrole : ∀ place, u.role place = s.role place)
    (halive : u.isAlive = true → s.isAlive = true) : u.Lifecycle := by
  obtain ⟨hrun, hsession, htimer⟩ := State.control_eq_iff.mp hc
  refine ⟨?_, ?_, ?_, ?_, ?_, ?_, ?_⟩
  · intro place n h
    rw [hrole] at h
    exact hsession ▸ hs.opening_le h
  · intro place n h
    rw [hrole] at h
    exact hsession ▸ hs.leaving_le h
  · intro a b n ha hb
    rw [hrole] at ha hb
    exact hs.opening_unique ha hb
  · intro place h
    rw [hrole, hsession] at h
    rw [htimer]
    exact hs.timer_of_opening h
  · intro place h hr
    rw [hrole, hsession] at h
    rw [hrun] at hr
    rw [htimer]
    exact hs.timer_of_leaving h hr
  · intro place n
    rw [hrole, htimer]
    exact hs.role_timer_iff
  · intro ha hr ht
    rw [hrun] at hr
    rw [htimer] at ht
    obtain ⟨place, h⟩ := hs.attended (halive ha) hr ht
    exact ⟨place, by rw [hrole, hsession]; exact h⟩

/-- A transition after which some roles are over, and the timer perhaps with them. -/
theorem Lifecycle.forget {s u : System} (hs : s.Lifecycle)
    (hsession : u.state.session = s.state.session)
    (htimer : u.state.timer = none ∨ u.state.timer = s.state.timer)
    (hrole : ∀ {place r}, u.role place = r → r ≠ .other → s.role place = r)
    (hleaving : ∀ {place}, u.role place = .leaving s.state.session →
      u.state.running = true → u.state.timer ≠ none)
    (hiff : ∀ {place n}, u.role place = .timer n ↔ u.state.timer = some ⟨place, n⟩)
    (hattended : u.isAlive = true → u.state.running = true → u.state.timer = none →
      ∃ place, u.role place = .opening s.state.session) : u.Lifecycle where
  opening_le h := hsession ▸ hs.opening_le (hrole h nofun)
  leaving_le h := hsession ▸ hs.leaving_le (hrole h nofun)
  opening_unique {a b n} ha hb := hs.opening_unique (hrole ha nofun) (hrole hb nofun)
  timer_of_opening {place} h := by
    have hopening := hs.timer_of_opening (hrole (hsession ▸ h) nofun)
    rcases htimer with hnone | hsame
    · exact hnone
    · rw [hsame]
      exact hopening
  timer_of_leaving h hrun := hleaving (hsession ▸ h) hrun
  role_timer_iff := hiff
  attended ha hr ht := by
    rw [hsession]
    exact hattended ha hr ht

/-! ## Steps of tasks -/

/-- Where only the task at `id` has changed its role, any role but its new one was there before. -/
theorem role_before {s u : System} {id : Nat} {new : Role} (hself : u.role id = new)
    (hne : ∀ {place}, place ≠ id → u.role place = s.role place) {place : Nat} {r : Role}
    (h : u.role place = r) (hr : r ≠ new) : s.role place = r := by
  have hplace : place ≠ id := by
    rintro rfl
    exact hr (h.symm.trans hself)
  exact (hne hplace).symm.trans h

/-- A start begins the next session of a stopped poller. -/
theorem Lifecycle.enter {s u : System} {id : Nat} (hs : s.Lifecycle)
    (hc : u.state.control = (true, s.state.session + 1, none)) (htimer : s.state.timer = none)
    (hself : u.role id = .opening (s.state.session + 1))
    (hne : ∀ {place}, place ≠ id → u.role place = s.role place) : u.Lifecycle := by
  obtain ⟨_, hsession, htimer'⟩ := State.control_eq_mk_iff.mp hc
  have hold : ∀ {place r}, u.role place = r → r ≠ .opening (s.state.session + 1) →
      s.role place = r := role_before hself hne
  refine ⟨?_, ?_, ?_, ?_, ?_, ?_, ?_⟩
  · intro place n h
    rw [hsession]
    by_cases hn : n = s.state.session + 1
    · exact Nat.le_of_eq hn
    · have hne' : Role.opening n ≠ .opening (s.state.session + 1) := fun heq =>
        hn (Role.opening.inj heq)
      exact Nat.le_succ_of_le (hs.opening_le (hold h hne'))
  · intro place n h
    rw [hsession]
    exact Nat.le_succ_of_le (hs.leaving_le (hold h nofun))
  · intro a b n ha hb
    by_cases hn : n = s.state.session + 1
    · -- no start has opened the new session before
      have hplace : ∀ {place}, u.role place = .opening n → place = id := by
        intro place h
        by_cases heq : place = id
        · exact heq
        · rw [hne heq] at h
          exact absurd (hn ▸ hs.opening_le h) (Nat.not_succ_le_self _)
      exact (hplace ha).trans (hplace hb).symm
    · have hne' : Role.opening n ≠ .opening (s.state.session + 1) := fun heq =>
        hn (Role.opening.inj heq)
      exact hs.opening_unique (hold ha hne') (hold hb hne')
  · intro _ _
    exact htimer'
  · intro place h
    rw [hsession] at h
    exact absurd (hs.leaving_le (hold h nofun)) (Nat.not_succ_le_self _)
  · intro place n
    rw [htimer']
    constructor
    · intro h
      have hbefore := hs.role_timer_iff.mp (hold h nofun)
      rw [htimer] at hbefore
      exact absurd hbefore nofun
    · exact nofun
  · intro _ _ _
    exact ⟨id, by rw [hsession]; exact hself⟩

/-- A start whose session is over, or already has its timer, comes to the end of its call. -/
theorem Lifecycle.pass {s u : System} {id session : Nat} (hs : s.Lifecycle)
    (hc : u.state.control = s.state.control) (hawaits : ¬ s.state.awaitsTimer session = true)
    (hid : s.role id = .opening session) (hself : u.role id = .leaving session)
    (hne : ∀ {place}, place ≠ id → u.role place = s.role place)
    (halive : u.isAlive = true → s.isAlive = true) : u.Lifecycle := by
  obtain ⟨hrun, hsession, htimer⟩ := State.control_eq_iff.mp hc
  have hold : ∀ {place r}, u.role place = r → r ≠ .leaving session → s.role place = r :=
    role_before hself hne
  have hkept : ∀ {place r}, s.role place = r → r ≠ .opening session → u.role place = r :=
    role_before hid fun hplace => (hne hplace).symm
  refine ⟨?_, ?_, ?_, ?_, ?_, ?_, ?_⟩
  · intro place n h
    exact hsession ▸ hs.opening_le (hold h nofun)
  · intro place n h
    rw [hsession]
    by_cases hplace : place = id
    · rw [hplace, hself] at h
      cases h
      exact hs.opening_le hid
    · exact hs.leaving_le ((hne hplace).symm.trans h)
  · intro a b n ha hb
    exact hs.opening_unique (hold ha nofun) (hold hb nofun)
  · intro place h
    rw [htimer]
    exact hs.timer_of_opening (hsession ▸ hold h nofun)
  · intro place h hr
    rw [hsession] at h
    rw [hrun] at hr
    rw [htimer]
    by_cases hplace : place = id
    · rw [hplace, hself] at h
      intro hnone
      exact hawaits (State.awaitsTimer_iff.mpr ⟨hr, (Role.leaving.inj h).symm, hnone⟩)
    · exact hs.timer_of_leaving ((hne hplace).symm.trans h) hr
  · intro place n
    rw [htimer]
    exact ⟨fun h => hs.role_timer_iff.mp (hold h nofun),
      fun h => hkept (hs.role_timer_iff.mpr h) nofun⟩
  · intro ha hr ht
    rw [hrun] at hr
    rw [htimer] at ht
    obtain ⟨place, h⟩ := hs.attended (halive ha) hr ht
    refine ⟨place, hsession.symm ▸ hkept h ?_⟩
    intro heq
    exact hawaits (State.awaitsTimer_iff.mpr ⟨hr, Role.opening.inj heq, ht⟩)

/-- The start of the session leaves a timer behind. -/
theorem Lifecycle.arm {s u : System} {id session next : Nat} (hs : s.Lifecycle)
    (hc : u.state.control = (s.state.running, s.state.session, some ⟨next, session⟩))
    (hawaits : s.state.awaitsTimer session = true) (hid : s.role id = .opening session)
    (hself : u.role id = .leaving session) (hnext : u.role next = .timer session)
    (hne : ∀ {place}, place ≠ id → place ≠ next → u.role place = s.role place) :
    u.Lifecycle := by
  obtain ⟨_, hsession, htimer⟩ := State.control_eq_mk_iff.mp hc
  obtain ⟨_, hcurrent, hnone⟩ := State.awaitsTimer_iff.mp hawaits
  have hold : ∀ {place r}, u.role place = r → r ≠ .leaving session → r ≠ .timer session →
      s.role place = r ∧ place ≠ id := by
    intro place r h hother hother'
    have hplace : place ≠ id := by
      rintro rfl
      exact hother (h.symm.trans hself)
    have hplace' : place ≠ next := by
      rintro rfl
      exact hother' (h.symm.trans hnext)
    exact ⟨(hne hplace hplace').symm.trans h, hplace⟩
  refine ⟨?_, ?_, ?_, ?_, ?_, ?_, ?_⟩
  · intro place n h
    exact hsession ▸ hs.opening_le (hold h nofun nofun).1
  · intro place n h
    rw [hsession]
    by_cases hn : n = session
    · exact Nat.le_of_eq (hn.trans hcurrent.symm)
    · have hne' : Role.leaving n ≠ .leaving session := fun heq => hn (Role.leaving.inj heq)
      exact hs.leaving_le (hold h hne' nofun).1
  · intro a b n ha hb
    exact hs.opening_unique (hold ha nofun nofun).1 (hold hb nofun nofun).1
  · intro place h
    -- the start at `id` was the only one that had opened this session
    obtain ⟨hbefore, hplace⟩ := hold h nofun nofun
    rw [hsession, hcurrent] at hbefore
    exact absurd (hs.opening_unique hbefore hid) hplace
  · intro place _ _
    rw [htimer]
    exact nofun
  · intro place n
    rw [htimer]
    constructor
    · intro h
      by_cases hplace : place = next
      · rw [hplace, hnext] at h
        cases h
        rw [hplace]
      · have hplace' : place ≠ id := by
          rintro rfl
          exact absurd (h.symm.trans hself) nofun
        have hbefore := hs.role_timer_iff.mp ((hne hplace' hplace).symm.trans h)
        rw [hnone] at hbefore
        exact absurd hbefore nofun
    · intro h
      cases h
      exact hnext
  · intro _ _ ht
    rw [htimer] at ht
    exact absurd ht nofun

/-- The guard of a start undoes its session or has nothing to undo. -/
theorem Lifecycle.finish {s u : System} {id session : Nat} (hs : s.Lifecycle)
    (hid : s.role id = .opening session ∨ s.role id = .leaving session)
    (hc : (s.state.awaitsTimer session = true ∧
        u.state.control = (false, s.state.session, s.state.timer)) ∨
      (¬ s.state.awaitsTimer session = true ∧ u.state.control = s.state.control))
    (hself : u.role id = .other) (hne : ∀ {place}, place ≠ id → u.role place = s.role place)
    (halive : u.isAlive = true → s.isAlive = true) : u.Lifecycle := by
  have hrole : ∀ {place r}, u.role place = r → r ≠ .other → s.role place = r :=
    role_before hself hne
  have htimers : ∀ {place n}, u.role place = .timer n ↔ s.state.timer = some ⟨place, n⟩ := by
    intro place n
    rw [← hs.role_timer_iff]
    refine ⟨fun h => hrole h nofun, fun h => ?_⟩
    have hplace : place ≠ id := by
      rintro rfl
      rcases hid with hid | hid <;> exact absurd (h.symm.trans hid) nofun
    exact (hne hplace).trans h
  rcases hc with ⟨_, hc⟩ | ⟨hawaits, hc⟩
  · obtain ⟨hrun, hsession, htimer⟩ := State.control_eq_mk_iff.mp hc
    refine hs.forget hsession (Or.inr htimer) hrole ?_ ?_ ?_
    · intro _ _ hr
      rw [hrun] at hr
      exact absurd hr Bool.false_ne_true
    · intro place n
      rw [htimer]
      exact htimers
    · intro _ hr
      rw [hrun] at hr
      exact absurd hr Bool.false_ne_true
  · obtain ⟨hrun, hsession, htimer⟩ := State.control_eq_iff.mp hc
    refine hs.forget hsession (Or.inr htimer) hrole ?_ ?_ ?_
    · intro place h hr
      rw [hrun] at hr
      rw [htimer]
      exact hs.timer_of_leaving (hrole h nofun) hr
    · intro place n
      rw [htimer]
      exact htimers
    · intro ha hr ht
      rw [hrun] at hr
      rw [htimer] at ht
      obtain ⟨place, h⟩ := hs.attended (halive ha) hr ht
      -- the start that is over was not the one that looks after the session
      have hplace : place ≠ id := by
        rintro rfl
        rcases hid with hid | hid
        · have hn : s.state.session = session := Role.opening.inj (h.symm.trans hid)
          exact hawaits (State.awaitsTimer_iff.mpr ⟨hr, hn, ht⟩)
        · exact absurd (h.symm.trans hid) nofun
      exact ⟨place, (hne hplace).trans h⟩

/-- Only a timer whose session is over, or that nobody needs, ends by itself. -/
theorem Lifecycle.role_ne_timer {s : System} (hs : s.Lifecycle) (hsound : s.state.Sound)
    (hgiven : s.isAlive = false → s.state.timer = none) {id session : Nat}
    (h : s.isAlive = false ∨ s.state.running = false ∨ s.state.session ≠ session) :
    s.role id ≠ .timer session := by
  intro hrole
  have htimer := hs.role_timer_iff.mp hrole
  rcases h with hdead | hstop | hsession
  · rw [hgiven hdead] at htimer
    exact absurd htimer nofun
  · rw [hsound.running_of_timer htimer] at hstop
    exact absurd hstop.symm Bool.false_ne_true
  · exact hsession (hsound.timer_session _ htimer).symm

/-- A step of a task keeps the invariant, in each of the seven ways in which a task advances. -/
theorem Lifecycle.leave {s : System} {id : Nat} {slot : Slot} {p : Piece} (hs : s.Lifecycle)
    (hsound : s.state.Sound) (hgiven : s.isAlive = false → s.state.timer = none)
    (hslot : s.slots[id]? = some slot)
    (hadvance : Advance (s.context id) s.state slot.task.role p)
    (halive : (s.leave id p).isAlive = true → s.isAlive = true) : (s.leave id p).Lifecycle := by
  have hid : s.role id = slot.role := role_of_getElem? hslot
  generalize hr : slot.task.role = r at hadvance
  cases hadvance with
  | quiet hc hrole hspawned =>
      refine hs.congr hc (fun place => ?_) halive
      by_cases hplace : place = id
      · rw [hplace, role_leave_self hslot hspawned, hid]
        exact Slot.role_congr (hrole.trans hr.symm) rfl
      · exact role_leave_ne hspawned hplace
  | enter hstop hc hrole hspawned =>
      have hnone := (hsound.stopped hstop).2.2
      rw [hnone] at hc
      refine hs.enter hc hnone ?_ (role_leave_ne hspawned)
      rw [role_leave_self hslot hspawned]
      exact Slot.role_eq_opening_iff.mpr hrole
  | @arm session _ hawaits hc hrole hspawned =>
      have hslots : (s.leave id p).slots =
          ((s.setTask id p.task).addTask (.timer session .spawned)).slots :=
        slots_leave_of_spawned hspawned
      have hlength : (s.setTask id p.task).slots.length = s.slots.length := length_setTask s id _
      have hplaces : ∀ {place slot}, (s.leave id p).slots[place]? = some slot ↔
          (s.setTask id p.task).slots[place]? = some slot ∨
            (place = s.slots.length ∧ slot = ⟨.timer session .spawned, false⟩) := by
        intro place slot
        rw [hslots, getElem?_addTask_eq_some_iff, hlength]
      refine hs.arm hc hawaits (hid.trans (Slot.role_eq_opening_iff.mpr hr)) ?_ ?_ ?_
      · rw [role_of_getElem? (hplaces.mpr (Or.inl (getElem?_setTask_self hslot p.task)))]
        exact Slot.role_eq_leaving_iff.mpr hrole
      · exact role_of_getElem? (hplaces.mpr (Or.inr ⟨rfl, rfl⟩))
      · intro place hplace hnext
        refine (role_congr (Option.ext fun slot => ?_)).trans (role_setTask_ne hplace p.task)
        rw [hplaces]
        exact ⟨fun h => h.resolve_right fun hnew => hnext hnew.1, Or.inl⟩
  | pass hawaits hc hrole hspawned =>
      refine hs.pass hc hawaits (hid.trans (Slot.role_eq_opening_iff.mpr hr)) ?_
        (role_leave_ne hspawned) halive
      rw [role_leave_self hslot hspawned]
      exact Slot.role_eq_leaving_iff.mpr hrole
  | rollBack hold hawaits hc hrole hspawned =>
      have hstart := hold.imp (fun h => hid.trans (Slot.role_eq_opening_iff.mpr (hr.trans h)))
        (fun h => hid.trans (Slot.role_eq_leaving_iff.mpr (hr.trans h)))
      refine hs.finish hstart (Or.inl ⟨hawaits, hc⟩) ?_ (role_leave_ne hspawned) halive
      rw [role_leave_self hslot hspawned]
      exact Slot.role_of_other hrole
  | finish hold hawaits hc hrole hspawned =>
      have hstart := hold.imp (fun h => hid.trans (Slot.role_eq_opening_iff.mpr (hr.trans h)))
        (fun h => hid.trans (Slot.role_eq_leaving_iff.mpr (hr.trans h)))
      refine hs.finish hstart (Or.inr ⟨hawaits, hc⟩) ?_ (role_leave_ne hspawned) halive
      rw [role_leave_self hslot hspawned]
      exact Slot.role_of_other hrole
  | @retire session _ hover hc hrole hspawned =>
      -- a timer that ends by itself had been told to end before
      have haborted : slot.role = .other := by
        have hnot : s.role id ≠ .timer session := hs.role_ne_timer hsound hgiven hover
        rw [hid] at hnot
        unfold Slot.role
        rw [hr]
        cases hab : slot.aborted with
        | true => rfl
        | false => exact absurd (Slot.role_eq_timer_iff.mpr ⟨hr, hab⟩) hnot
      refine hs.congr hc (fun place => ?_) halive
      by_cases hplace : place = id
      · rw [hplace, role_leave_self hslot hspawned, hid, haborted]
        exact Slot.role_of_other hrole
      · exact role_leave_ne hspawned hplace

/-! ## Transitions -/

/-- The roles when the installed timer is told to end and its place is given up. -/
theorem Lifecycle.forget_timer {s u : System} (hs : s.Lifecycle)
    (hsession : u.state.session = s.state.session) (htimer : u.state.timer = none)
    (hsome : ∀ t, s.state.timer = some t → ∀ place, u.role place = (s.markAborted t.task).role place)
    (hnone : s.state.timer = none → ∀ place, u.role place = s.role place)
    (hleaving : ∀ {place}, u.role place = .leaving s.state.session → u.state.running = false)
    (hattended : u.isAlive = true → u.state.running = true →
      ∃ place, u.role place = .opening s.state.session) : u.Lifecycle := by
  have hrole : ∀ {place r}, u.role place = r → r ≠ .other →
      s.role place = r ∧ ∀ n, r ≠ .timer n := by
    intro place r h hr
    cases ht : s.state.timer with
    | none =>
        have hbefore := (hnone ht place).symm.trans h
        refine ⟨hbefore, fun n hn => ?_⟩
        have htimer := hs.role_timer_iff.mp (hbefore.trans hn)
        rw [ht] at htimer
        exact absurd htimer nofun
    | some t =>
        rw [hsome t ht] at h
        have htold : s.role t.task = .timer t.session := hs.role_timer_iff.mpr ht
        have hplace : place ≠ t.task := by
          rintro rfl
          exact hr (h.symm.trans (role_markAborted_of_timer htold))
        have hbefore := (role_markAborted_ne hplace).symm.trans h
        refine ⟨hbefore, fun n hn => hplace ?_⟩
        have htimer := hs.role_timer_iff.mp (hbefore.trans hn)
        rw [ht] at htimer
        exact (congrArg TimerRef.task (Option.some.inj htimer)).symm
  refine hs.forget hsession (Or.inl htimer) (fun h hr => (hrole h hr).1) ?_ ?_ ?_
  · intro place h hrun
    rw [hleaving h] at hrun
    exact absurd hrun Bool.false_ne_true
  · intro place n
    rw [htimer]
    exact ⟨fun h => absurd rfl ((hrole h nofun).2 n), nofun⟩
  · intro ha hr _
    exact hattended ha hr

/-- What happens to a poller keeps the invariant, as long as the poller is not given up by it. -/
theorem lifecycle_of_act {s u : System} {e : Event} {effects : List Effect} (hs : s.Lifecycle)
    (hsound : s.state.Sound) (hgiven : s.isAlive = false → s.state.timer = none)
    (h : s.act e = some (u, effects)) : u.Lifecycle := by
  have halive : u.isAlive = true → s.isAlive = true := isAlive_of_act h
  cases act_eq_some_iff.mp h with
  | start | poll => exact hs.congr rfl (role_addTask_of_other rfl) halive
  | step hslot _ hp => exact hs.leave hsound hgiven hslot (Task.advance_of_piece hp) halive
  | @deliver id _ slot next hslot hnext =>
      have hrole : Slot.role { slot with task := next } = slot.role :=
        Slot.role_congr (Task.role_of_deliver hnext) rfl
      exact hs.congr rfl (role_setTask_of_role_eq hslot hrole) halive
  | abort hslot hcall => exact hs.congr rfl (role_markAborted_of_call hslot hcall) halive
  | @drop id slot hslot hsuspended hdroppable =>
      have hrole : Slot.role { slot with task := slot.task.dropped } = slot.role := by
        cases htimer : slot.task.isTimer with
        | false => exact Slot.role_congr (Task.role_dropped hsuspended htimer) rfl
        | true =>
            have haborted : slot.aborted = true := by
              rcases hdroppable with hab | hcall
              · exact hab
              · exact absurd (htimer.symm.trans hcall) Bool.true_eq_false.mp
            exact Slot.role_of_dropped_timer htimer haborted
      exact hs.congr rfl (role_setTask_of_role_eq hslot hrole) halive
  | stop =>
      have hstate : s.stop.1.state = s.state.stop := state_stop s
      have hrun : s.stop.1.state.running = false := by rw [hstate]; rfl
      refine hs.forget_timer (by rw [hstate]; rfl) (by rw [hstate]; rfl) ?_ ?_
        (fun _ => hrun) ?_
      · intro t ht place
        simp only [stop, ht]
        rfl
      · intro ht place
        simp only [stop, ht]
        rfl
      · intro _ hr
        rw [hrun] at hr
        exact absurd hr Bool.false_ne_true
  | configure | clearHistory | tick | retain | release =>
      exact hs.congr rfl (fun _ => rfl) halive

/-- Giving up a poller keeps the invariant: nobody who could need the timer is left. -/
theorem lifecycle_reap {s : System} (hs : s.Lifecycle) : s.reap.Lifecycle := by
  rcases Bool.eq_false_or_eq_true s.isAlive with halive | hdead
  · rw [reap_of_alive halive]
    exact hs
  · have hstate := state_reap_of_dead hdead
    have hrole : (∀ t, s.state.timer = some t →
          ∀ place, s.reap.role place = (s.markAborted t.task).role place) ∧
        (s.state.timer = none → ∀ place, s.reap.role place = s.role place) := by
      unfold reap
      rw [hdead, if_neg Bool.false_ne_true]
      constructor
      · intro t ht place
        simp only [ht]
        rfl
      · intro ht place
        simp only [ht]
    refine hs.forget_timer (by rw [hstate]) (by rw [hstate]) hrole.1 hrole.2 ?_ ?_
    · intro place h
      obtain ⟨slot, hslot, hleaving⟩ := exists_slot_of_role h nofun
      have hold := Task.holdsPoller_of_leaving (Slot.role_eq_leaving_iff.mp hleaving)
      have halive := isAlive_of_holdsPoller hslot hold
      rw [isAlive_reap, hdead] at halive
      exact absurd halive Bool.false_ne_true
    · intro ha
      rw [isAlive_reap, hdead] at ha
      exact absurd ha Bool.false_ne_true

/-- A reachable poller that is given up has no timer. -/
theorem timer_of_given_up {s : System} (h : Reachable s) (hdead : s.isAlive = false) :
    s.state.timer = none := by
  refine Reachable.induction (P := fun s => s.isAlive = false → s.state.timer = none)
    (fun _ _ => rfl) ?_ h hdead
  intro s t e effects _ _ happly hdead
  obtain ⟨u, _, rfl⟩ := apply_eq_some_iff.mp happly
  rw [isAlive_reap] at hdead
  rw [state_reap_of_dead hdead]

theorem lifecycle_of_reachable {s : System} (h : Reachable s) : s.Lifecycle := by
  refine Reachable.induction lifecycle_new ?_ h
  intro s t e effects hreach hs happly
  obtain ⟨u, hact, rfl⟩ := apply_eq_some_iff.mp happly
  exact lifecycle_reap
    (lifecycle_of_act hs (sound_of_reachable hreach) (timer_of_given_up hreach) hact)

/-! ## Who looks after a poller -/

/-- The task at this place is a start that opened the current session and is still pending: it
has gone neither through the section that installs the timer nor through its guard. -/
def IsPendingStart (s : System) (place : Nat) : Prop :=
  ∃ t, s.task? place = some t ∧ t.role = .opening s.state.session

/-- A timer for the current session is installed. -/
def HasTimer (s : System) : Prop := ∃ t, s.state.timer = some t ∧ t.session = s.state.session

theorem isPendingStart_iff {s : System} {place : Nat} :
    s.IsPendingStart place ↔ s.role place = .opening s.state.session := by
  constructor
  · rintro ⟨t, ht, hrole⟩
    obtain ⟨slot, hslot, rfl⟩ := task?_eq_some_iff.mp ht
    rw [role_of_getElem? hslot]
    exact Slot.role_eq_opening_iff.mpr hrole
  · intro h
    obtain ⟨slot, hslot, hrole⟩ := exists_slot_of_role h nofun
    exact ⟨slot.task, task?_eq_some_iff.mpr ⟨slot, hslot, rfl⟩,
      Slot.role_eq_opening_iff.mp hrole⟩

/-- In every reachable poller: a stopped poller has no history, no timer and no clock of requests;
a running poller that somebody holds is looked after either by one pending start or by a timer for
the current session, and not by both; and an installed timer is for the current session, has not
ended, and is the only timer that was not told to end. -/
theorem attended_by_start_or_timer {s : System} (h : Reachable s) :
    (s.state.running = false →
      s.state.seen = .empty ∧ s.state.timer = none ∧ s.state.lastCycle = none) ∧
    (s.isAlive = true → s.state.running = true →
      ((∃ place, s.IsPendingStart place) ∨ s.HasTimer) ∧
        ¬ ((∃ place, s.IsPendingStart place) ∧ s.HasTimer)) ∧
    (∀ a b, s.IsPendingStart a → s.IsPendingStart b → a = b) ∧
    (∀ t, s.state.timer = some t → t.session = s.state.session ∧
      ∃ phase, phase ≠ .ended ∧ s.slots[t.task]? = some ⟨.timer t.session phase, false⟩) ∧
    (∀ place session phase, s.slots[place]? = some ⟨.timer session phase, false⟩ →
      phase ≠ .ended → s.state.timer = some ⟨place, session⟩) := by
  have hlife := lifecycle_of_reachable h
  have hsound := sound_of_reachable h
  refine ⟨?_, ?_, ?_, ?_, ?_⟩
  · intro hstop
    obtain ⟨hseen, hlast, htimer⟩ := hsound.stopped hstop
    exact ⟨hseen, htimer, hlast⟩
  · intro halive hrun
    constructor
    · cases ht : s.state.timer with
      | none =>
          obtain ⟨place, hrole⟩ := hlife.attended halive hrun ht
          exact Or.inl ⟨place, isPendingStart_iff.mpr hrole⟩
      | some t => exact Or.inr ⟨t, ht, hsound.timer_session t ht⟩
    · rintro ⟨⟨place, hplace⟩, t, ht, _⟩
      rw [hlife.timer_of_opening (isPendingStart_iff.mp hplace)] at ht
      exact absurd ht nofun
  · intro a b ha hb
    exact hlife.opening_unique (isPendingStart_iff.mp ha) (isPendingStart_iff.mp hb)
  · intro t ht
    refine ⟨hsound.timer_session t ht, ?_⟩
    have hrole : s.role t.task = .timer t.session := hlife.role_timer_iff.mpr ht
    obtain ⟨⟨task, aborted⟩, hslot, hslotRole⟩ := exists_slot_of_role hrole nofun
    obtain ⟨htask, hfree⟩ := Slot.role_eq_timer_iff.mp hslotRole
    obtain ⟨phase, hphase, heq⟩ := Task.eq_timer_of_role htask
    cases heq
    cases hfree
    exact ⟨phase, hphase, hslot⟩
  · intro place session phase hslot hphase
    refine hlife.role_timer_iff.mp ?_
    rw [role_of_getElem? hslot]
    cases phase with
    | ended => exact absurd rfl hphase
    | spawned | checking | sleeping | cycling => rfl

/-- A poller that was stopped and started again while the request of its first start was on its
way: the second start looks after it. -/
theorem attended_after_restart :
    ∃ s effects,
      (new "").run [.start .none, .step 0, .step 0, .stop, .start .none, .step 1] =
        some (s, effects) ∧
      s.isAlive = true ∧ s.state.running = true ∧ s.state.session = 2 ∧
      ((∃ place, s.IsPendingStart place) ∨ s.HasTimer) ∧
        ¬ ((∃ place, s.IsPendingStart place) ∧ s.HasTimer) := by
  refine ⟨_, _, rfl, rfl, rfl, rfl, ?_⟩
  have hreach := attended_by_start_or_timer
    ⟨"", [.start .none, .step 0, .step 0, .stop, .start .none, .step 1], _, rfl⟩
  exact hreach.2.1 rfl rfl

end System

end AlarmMonitor.Polling
