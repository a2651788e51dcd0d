import AlarmMonitor.Proofs.Polling.Run
import AlarmMonitor.Proofs.Watch.Piece

/-!
# The transitions of a watch, taken apart

* `System.duty?`: the observer at a place, unless it was told to end;
* `System.Act` lists the transitions, each with what it asks for and what is behind it, and
  `act_of_apply` says that no others happen;
* `reachable_of_bootStep`, `reachable_of_observerStep`: boot and observer work on the poller through
  transitions of the poller only, so they leave it a reachable one.
-/

set_option autoImplicit false

namespace AlarmMonitor.Watch

open AlarmMonitor.Backend (Reply)
open AlarmMonitor.Install (Status Cell Subscription)

/-- The task that begins by an event. -/
def Event.begun? : Event → Option Task
  | .boot => some (.boot .ready)
  | .launch => some (.launch .ready)
  | .check => some (.check .ready)
  | .fetch => some (.fetch .ready)
  | .shutdown observer loop => some (.shutdown observer loop .signalling)
  | _ => none

namespace System

/-! ## Places -/

theorem getElem?_modify_eq_some_iff {α : Type} {f : α → α} {l : List α} {id place : Nat} {a : α} :
    (l.modify id f)[place]? = some a ↔
      ∃ b, l[place]? = some b ∧ a = if place = id then f b else b := by
  simp only [List.getElem?_modify, Option.map_eq_map, Option.map_eq_some_iff]
  constructor
  · rintro ⟨b, hb, rfl⟩
    refine ⟨b, hb, ?_⟩
    by_cases h : id = place
    · rw [if_pos h, if_pos h.symm]
    · rw [if_neg h, if_neg (Ne.symm h)]
  · rintro ⟨b, hb, rfl⟩
    refine ⟨b, hb, ?_⟩
    by_cases h : id = place
    · rw [if_pos h, if_pos h.symm]
    · rw [if_neg h, if_neg (Ne.symm h)]

theorem task?_eq_some_iff {s : System} {id : Nat} {t : Task} :
    s.task? id = some t ↔ ∃ slot, s.slots[id]? = some slot ∧ slot.task = t :=
  Option.map_eq_some_iff

theorem task?_of_slot {s : System} {id : Nat} {slot : Slot} {t : Task}
    (hslot : s.slots[id]? = some slot) (htask : slot.task = t) : s.task? id = some t :=
  task?_eq_some_iff.mpr ⟨slot, hslot, htask⟩

theorem lt_length_of_task? {s : System} {id : Nat} {t : Task} (h : s.task? id = some t) :
    id < s.slots.length := by
  obtain ⟨slot, hslot, _⟩ := task?_eq_some_iff.mp h
  exact (List.getElem?_eq_some_iff.mp hslot).1

/-- A place behind a new task is an old place or that of the task. -/
theorem getElem?_addTask_eq_some_iff {s : System} {t : Task} {place : Nat} {slot : Slot} :
    (s.addTask t).slots[place]? = some slot ↔
      s.slots[place]? = some slot ∨ (place = s.slots.length ∧ slot = ⟨t, false⟩) := by
  simp only [addTask, List.getElem?_append]
  split
  · rename_i hlt
    constructor
    · exact Or.inl
    · rintro (h | ⟨rfl, _⟩)
      · exact h
      · exact absurd hlt (Nat.lt_irrefl _)
  · rename_i hle
    have hnone : s.slots[place]? = none := List.getElem?_eq_none (Nat.le_of_not_lt hle)
    rw [List.getElem?_singleton, hnone]
    constructor
    · intro h
      split at h
      · exact Or.inr ⟨by omega, (Option.some.inj h).symm⟩
      · exact absurd h nofun
    · rintro (h | ⟨rfl, rfl⟩)
      · exact absurd h nofun
      · rw [Nat.sub_self, if_pos rfl]

/-- The task at a place where a task was put, or at another one. -/
theorem task?_setTask_eq_some {s : System} {id place : Nat} {t new : Task}
    (h : (s.setTask id new).task? place = some t) :
    (place = id ∧ t = new) ∨ (place ≠ id ∧ s.task? place = some t) := by
  obtain ⟨slot, hslot, rfl⟩ := task?_eq_some_iff.mp h
  obtain ⟨before, hbefore, rfl⟩ := getElem?_modify_eq_some_iff.mp hslot
  by_cases hplace : place = id
  · rw [if_pos hplace]
    exact Or.inl ⟨hplace, rfl⟩
  · rw [if_neg hplace]
    exact Or.inr ⟨hplace, task?_eq_some_iff.mpr ⟨before, hbefore, rfl⟩⟩

theorem task?_setTask_self {s : System} {id : Nat} (h : id < s.slots.length) (new : Task) :
    (s.setTask id new).task? id = some new := by
  have hslot : s.slots[id]? = some s.slots[id] := List.getElem?_eq_getElem h
  refine task?_of_slot (getElem?_modify_eq_some_iff.mpr ⟨_, hslot, rfl⟩) ?_
  rw [if_pos rfl]

/-- Telling a task to end changes no task. -/
theorem task?_markAborted_eq_some {s : System} {id place : Nat} {t : Task}
    (h : (s.markAborted id).task? place = some t) : s.task? place = some t := by
  obtain ⟨slot, hslot, rfl⟩ := task?_eq_some_iff.mp h
  obtain ⟨before, hbefore, rfl⟩ := getElem?_modify_eq_some_iff.mp hslot
  refine task?_eq_some_iff.mpr ⟨before, hbefore, ?_⟩
  split <;> rfl

theorem task?_addTask_eq_some {s : System} {place : Nat} {t new : Task}
    (h : (s.addTask new).task? place = some t) :
    s.task? place = some t ∨ (place = s.slots.length ∧ t = new) := by
  obtain ⟨slot, hslot, rfl⟩ := task?_eq_some_iff.mp h
  rcases getElem?_addTask_eq_some_iff.mp hslot with hold | ⟨hplace, rfl⟩
  · exact Or.inl (task?_eq_some_iff.mpr ⟨slot, hold, rfl⟩)
  · exact Or.inr ⟨hplace, rfl⟩

@[simp] theorem length_setTask (s : System) (id : Nat) (t : Task) :
    (s.setTask id t).slots.length = s.slots.length := List.length_modify _ _ _

@[simp] theorem length_markAborted (s : System) (id : Nat) :
    (s.markAborted id).slots.length = s.slots.length := List.length_modify _ _ _

@[simp] theorem length_addTask (s : System) (t : Task) :
    (s.addTask t).slots.length = s.slots.length + 1 := List.length_append

/-! ## Observers on duty -/

/-- The observer at a place, unless it was told to end. -/
def duty? (s : System) (id : Nat) : Option (Subscription × Observer) :=
  match s.slots[id]? with
  | some ⟨.observer sub phase, false⟩ => some (sub, phase)
  | _ => none

theorem duty?_eq_some_iff {s : System} {id : Nat} {sub : Subscription} {phase : Observer} :
    s.duty? id = some (sub, phase) ↔ s.slots[id]? = some ⟨.observer sub phase, false⟩ := by
  unfold duty?
  constructor
  · intro h
    split at h
    · rename_i hslot
      cases h
      exact hslot
    · exact absurd h nofun
  · intro h
    rw [h]

/-- An observer at a place where a task was put, or at another one. -/
theorem duty?_setTask_eq_some {s : System} {id place : Nat} {new : Task} {sub : Subscription}
    {phase : Observer} (h : (s.setTask id new).duty? place = some (sub, phase)) :
    (place = id ∧ new = .observer sub phase ∧
        ∃ before, s.slots[id]? = some before ∧ before.aborted = false) ∨
      (place ≠ id ∧ s.duty? place = some (sub, phase)) := by
  obtain ⟨before, hbefore, hslot⟩ := getElem?_modify_eq_some_iff.mp (duty?_eq_some_iff.mp h)
  by_cases hplace : place = id
  · rw [if_pos hplace, Slot.mk.injEq] at hslot
    rw [hplace] at hbefore
    exact Or.inl ⟨hplace, hslot.1.symm, before, hbefore, hslot.2.symm⟩
  · rw [if_neg hplace] at hslot
    exact Or.inr ⟨hplace, duty?_eq_some_iff.mpr (hslot ▸ hbefore)⟩

theorem duty?_markAborted_eq_some {s : System} {id place : Nat} {sub : Subscription}
    {phase : Observer} (h : (s.markAborted id).duty? place = some (sub, phase)) :
    place ≠ id ∧ s.duty? place = some (sub, phase) := by
  obtain ⟨before, hbefore, hslot⟩ := getElem?_modify_eq_some_iff.mp (duty?_eq_some_iff.mp h)
  by_cases hplace : place = id
  · rw [if_pos hplace, Slot.mk.injEq] at hslot
    exact absurd hslot.2 nofun
  · rw [if_neg hplace] at hslot
    exact ⟨hplace, duty?_eq_some_iff.mpr (hslot ▸ hbefore)⟩

theorem duty?_addTask_eq_some {s : System} {place : Nat} {new : Task} {sub : Subscription}
    {phase : Observer} (h : (s.addTask new).duty? place = some (sub, phase)) :
    s.duty? place = some (sub, phase) ∨ (place = s.slots.length ∧ new = .observer sub phase) := by
  rcases getElem?_addTask_eq_some_iff.mp (duty?_eq_some_iff.mp h) with hold | ⟨hplace, hslot⟩
  · exact Or.inl (duty?_eq_some_iff.mpr hold)
  · exact Or.inr ⟨hplace, (congrArg Slot.task hslot).symm⟩

/-! ## The transitions -/

/-- The transitions of a watch. -/
inductive Act (s : System) : Event → System → List Effect → Prop where
  | poller {e : Polling.Event} {p : Polling.System} {seen : List Polling.Effect}
      (hp : s.polling.apply e = some (p, seen)) :
      Act s (.poller e) { s with polling := p } (seen.map .poller)
  | set {v : Status} {c : Cell} {effects : List Effect} (hvalue : c.value = v)
      (hturn : Turn s.cell c effects) (honly : ∀ x ∈ effects, x = .transition v) :
      Act s (.set v) { s with cell := c } effects
  | begin {e : Event} {t : Task} (hbegun : e.begun? = some t) : Act s e (s.addTask t) []
  | spawnLoop :
      Act s .spawnLoop { s.addTask (.loop s.settings false .spawned) with cell := s.cell.retain }
        [.spawned s.slots.length]
  | boot {id : Nat} {slot : Slot} {wrap : Boot → Task} {phase next : Boot} {p : Polling.System}
      {c : Cell} {effects : List Effect} (hslot : s.slots[id]? = some slot)
      (htask : slot.task = wrap phase) (hwrap : wrap = .boot ∨ wrap = .launch)
      (hstep : Boot.Step s id phase p c next effects) :
      Act s (.step id) ({ s with polling := p, cell := c }.setTask id (wrap next)) effects
  | launched {id : Nat} {slot : Slot} {result : Option Status} {p : Polling.System}
      {seen : List Polling.Effect} (hslot : s.slots[id]? = some slot)
      (htask : slot.task = .launch (.ended result)) (hp : s.polling.apply .retain = some (p, seen)) :
      Act s (.step id)
        ((({ s with polling := p }.addTask (.observer s.cell.subscribe .watching)).addTask
          (.loop s.settings false .spawned)).setTask id
            (.launched s.slots.length (s.slots.length + 1)))
        (seen.map .poller ++ [.spawned s.slots.length, .spawned (s.slots.length + 1)])
  | observer {id : Nat} {slot : Slot} {sub sub' : Subscription} {phase next : Observer}
      {p : Polling.System} {effects : List Effect} (hslot : s.slots[id]? = some slot)
      (hfree : (slot.aborted && s.isSuspended slot.task) = false)
      (htask : slot.task = .observer sub phase)
      (hstep : Observer.Step s sub phase p sub' next effects) :
      Act s (.step id) ({ s with polling := p }.setTask id (.observer sub' next)) effects
  | loop {id : Nat} {slot : Slot} {settings : Install.Settings} {halting : Bool}
      {phase next : Loop} {c : Cell} {effects : List Effect} (hslot : s.slots[id]? = some slot)
      (htask : slot.task = .loop settings halting phase) (hgoes : phase ≠ .ended)
      (hturn : Turn s.cell c effects) (hreset : Effect.reset ∉ effects) :
      Act s (.step id) ({ s with cell := c }.setTask id (.loop settings halting next)) effects
  | check {id : Nat} {slot : Slot} {q next : Query Install.Outcome} {c : Cell}
      {effects : List Effect} (hslot : s.slots[id]? = some slot) (htask : slot.task = .check q)
      (hturn : Turn s.cell c effects) (hreset : Effect.reset ∉ effects) :
      Act s (.step id) ({ s with cell := c }.setTask id (.check next)) effects
  | fetch {id : Nat} {slot : Slot} {q next : Query Answer} {effects : List Effect}
      (hslot : s.slots[id]? = some slot) (htask : slot.task = .fetch q)
      (hsame : transitions effects = []) (hreset : Effect.reset ∉ effects) :
      Act s (.step id) (s.setTask id (.fetch next)) effects
  | shutdown {id observer loop : Nat} {slot : Slot} {phase : Shutdown} {t : System}
      {effects : List Effect} (hslot : s.slots[id]? = some slot)
      (htask : slot.task = .shutdown observer loop phase)
      (hstep : Shutdown.Step s id observer loop phase t effects) : Act s (.step id) t effects
  | halt {id next : Nat} {settings : Install.Settings}
      (htask : s.task? id = some (.loop settings true (.waiting next))) :
      Act s (.halt id) { s.setTask id (.loop settings true .ended) with cell := s.cell.release } []
  | deliver {id : Nat} {reply : Reply} {t next : Task} (htask : s.task? id = some t)
      (hnext : t.deliver reply = some next) : Act s (.deliver id reply) (s.setTask id next) []
  | drop {id handles : Nat} {slot : Slot} {events : List Polling.Event} {p : Polling.System}
      {seen : List Polling.Effect} (hslot : s.slots[id]? = some slot)
      (hsuspended : s.isSuspended slot.task = true)
      (hloop : ∀ settings halting phase, slot.task ≠ .loop settings halting phase)
      (hshutdown : ∀ observer loop phase, slot.task ≠ .shutdown observer loop phase)
      (hevents : ∀ e ∈ events, e = .release ∨ ∃ call, e = .drop call)
      (hp : s.polling.run events = some (p, seen)) :
      Act s (.drop id)
        ({ s with polling := p, cell := { s.cell with handles := handles } }.setTask id .gone)
        (seen.map .poller)
  | askToEnd {loop : Nat} {settings : Install.Settings} {halting : Bool} {phase : Loop}
      (htask : s.task? loop = some (.loop settings halting phase)) :
      Act s (.askToEnd loop) (s.setTask loop (.loop settings true phase)) [.told loop]
  | dropHandle {loop : Nat} {settings : Install.Settings} {halting : Bool} {phase : Loop}
      {p : Polling.System} {seen : List Polling.Effect}
      (htask : s.task? loop = some (.loop settings halting phase))
      (hp : s.polling.apply .release = some (p, seen)) :
      Act s (.dropHandle loop)
        ({ s with polling := p, cell := s.cell.release }.setTask loop (.loop settings true phase))
        (.told loop :: seen.map .poller)
  | retainStatus : Act s .retainStatus { s with cell := s.cell.retain } []
  | releaseStatus : Act s .releaseStatus { s with cell := s.cell.release } []

/-- A step of the watch is the next piece of the task at its place. -/
theorem stepTask_of_apply {s : System} {id : Nat} {t : Task} {r : System × List Effect}
    (htask : s.task? id = some t) (h : s.apply (.step id) = some r) : s.stepTask id t = some r := by
  obtain ⟨slot, hslot, rfl⟩ := task?_eq_some_iff.mp htask
  have hstep : s.step id = some r := h
  simp only [step, hslot] at hstep
  split at hstep
  · exact absurd hstep nofun
  · exact hstep

theorem stepTask_launch {s : System} {id : Nat} {phase : Boot}
    (h : ∀ result, phase ≠ .ended result) :
    s.stepTask id (.launch phase) = s.stepBoot id .launch phase := by
  cases phase with
  | ended result => exact absurd rfl (h result)
  | ready | waiting | answered | acting | starting | stopped => rfl

theorem act_of_step {s t : System} {id : Nat} {effects : List Effect}
    (h : s.step id = some (t, effects)) : s.Act (.step id) t effects := by
  unfold step at h
  split at h
  · rename_i slot hslot
    split at h
    · exact absurd h nofun
    · rename_i hblock
      have hfree : (slot.aborted && s.isSuspended slot.task) = false := Bool.eq_false_iff.mpr hblock
      cases htask : slot.task with
      | boot phase =>
          rw [htask] at h
          obtain ⟨p, c, next, hstep, rfl⟩ := boot_of_stepBoot h
          exact .boot hslot htask (Or.inl rfl) hstep
      | launch phase =>
          rw [htask] at h
          cases phase with
          | ended result =>
              obtain ⟨⟨u, seen⟩, hpoller, heq⟩ := Option.map_eq_some_iff.mp h
              obtain ⟨p, told, hp, rfl, rfl⟩ := poller_eq_some_iff.mp hpoller
              cases heq
              exact .launched hslot htask hp
          | ready | waiting | answered | acting | starting | stopped =>
              rw [stepTask_launch] at h
              · obtain ⟨p, c, next, hstep, rfl⟩ := boot_of_stepBoot h
                exact .boot hslot htask (Or.inr rfl) hstep
              · exact fun _ => nofun
      | observer sub phase =>
          rw [htask] at h
          obtain ⟨p, sub', next, hstep, rfl⟩ := observer_of_stepObserver h
          exact .observer hslot hfree htask hstep
      | loop settings halting phase =>
          rw [htask] at h
          obtain ⟨hgoes, c, next, rfl, hturn, hreset⟩ := loop_of_stepLoop h
          exact .loop hslot htask hgoes hturn hreset
      | check q =>
          rw [htask] at h
          obtain ⟨c, next, rfl, hturn, hreset⟩ := check_of_stepCheck h
          exact .check hslot htask hturn hreset
      | fetch q =>
          rw [htask] at h
          obtain ⟨next, rfl, hsame, hreset⟩ := fetch_of_stepFetch h
          exact .fetch hslot htask hsame hreset
      | shutdown observer loop phase =>
          rw [htask] at h
          exact .shutdown hslot htask (shutdown_of_stepShutdown h)
      | launched | gone =>
          rw [htask] at h
          exact absurd h nofun
  · exact absurd h nofun

/-- A dropped task takes the poller's task with it that it waits for. -/
theorem dropCall_cases (s : System) (t : Task) :
    ∃ events p seen, (∀ e ∈ events, ∃ call, e = .drop call) ∧
      s.polling.run events = some (p, seen) ∧
      s.dropCall t = ({ s with polling := p }, seen.map .poller) := by
  have hnothing : s.dropCall t = (s, []) →
      ∃ events p seen, (∀ e ∈ events, ∃ call, e = .drop call) ∧
        s.polling.run events = some (p, seen) ∧
        s.dropCall t = ({ s with polling := p }, seen.map .poller) :=
    fun h => ⟨[], s.polling, [], fun e he => absurd he List.not_mem_nil, rfl, h⟩
  cases hcall : t.call? with
  | none => exact hnothing (by simp only [dropCall, hcall])
  | some call =>
      cases hpoller : s.poller (.drop call) with
      | none => exact hnothing (by simp only [dropCall, hcall, hpoller, Option.getD_none])
      | some r =>
          obtain ⟨p, seen, hp, ht, heffects⟩ := poller_eq_some_iff.mp hpoller
          refine ⟨[.drop call], p, seen, ?_, ?_, ?_⟩
          · intro e he
            exact ⟨call, List.mem_singleton.mp he⟩
          · exact Polling.System.run_cons_eq_some_iff.mpr
              ⟨p, seen, [], hp, rfl, (List.append_nil seen).symm⟩
          · simp only [dropCall, hcall, hpoller, Option.getD_some, ← ht, ← heffects]

/-- A dropped task gives up its handles. -/
theorem releaseOf_cases {s u : System} {t : Task} {effects : List Effect}
    (h : s.releaseOf t = some (u, effects)) :
    ∃ events p seen handles, (∀ e ∈ events, e = .release) ∧
      s.polling.run events = some (p, seen) ∧
      u = { s with polling := p, cell := { s.cell with handles := handles } } ∧
      effects = seen.map .poller := by
  have hreleased : ∀ {p seen}, s.polling.apply .release = some (p, seen) →
      s.polling.run [.release] = some (p, seen) := fun hp =>
    Polling.System.run_cons_eq_some_iff.mpr ⟨_, _, [], hp, rfl, (List.append_nil _).symm⟩
  cases t with
  | observer sub phase =>
      obtain ⟨p, seen, hp, rfl, rfl⟩ := poller_eq_some_iff.mp h
      exact ⟨[.release], p, seen, s.cell.handles, fun e he => List.mem_singleton.mp he,
        hreleased hp, rfl, rfl⟩
  | launch phase =>
      obtain ⟨⟨v, seen⟩, hrelease, heq⟩ := Option.map_eq_some_iff.mp h
      obtain ⟨p, told, hp, rfl, rfl⟩ := releaseHandles_eq_some_iff.mp hrelease
      cases heq
      exact ⟨[.release], p, told, s.cell.handles - 1 - 1, fun e he => List.mem_singleton.mp he,
        hreleased hp, rfl, rfl⟩
  | boot | launched | loop | check | fetch | shutdown | gone =>
      cases Option.some.inj h
      exact ⟨[], s.polling, [], s.cell.handles, fun e he => absurd he List.not_mem_nil,
        rfl, rfl, rfl⟩

theorem act_of_drop {s t : System} {id : Nat} {effects : List Effect}
    (h : s.drop id = some (t, effects)) : s.Act (.drop id) t effects := by
  unfold drop at h
  cases hslot : s.slots[id]? with
  | none =>
      rw [hslot] at h
      exact absurd h nofun
  | some slot =>
      simp only [hslot] at h
      obtain ⟨events, p, seen, hevents, hrun, hdrop⟩ := s.dropCall_cases slot.task
      rw [hdrop] at h
      obtain ⟨hboth, hmap⟩ := Option.ite_none_right_eq_some.mp h
      obtain ⟨hdroppable, hsuspended⟩ := Bool.and_eq_true_iff.mp hboth
      obtain ⟨⟨u, more⟩, hrelease, heq⟩ := Option.map_eq_some_iff.mp hmap
      obtain ⟨others, q, later, handles, hothers, hrun', rfl, rfl⟩ := releaseOf_cases hrelease
      cases heq
      have hall : s.polling.run (events ++ others) = some (q, seen ++ later) :=
        Polling.System.run_append_eq_some_iff.mpr ⟨p, seen, later, hrun, hrun', rfl⟩
      rw [← List.map_append]
      refine .drop hslot hsuspended ?_ ?_ ?_ hall
      · intro settings halting phase htask
        rw [htask] at hdroppable
        exact absurd hdroppable nofun
      · intro observer loop phase htask
        rw [htask] at hdroppable
        exact absurd hdroppable nofun
      · intro e he
        rcases List.mem_append.mp he with hfirst | hsecond
        · exact Or.inr (hevents e hfirst)
        · exact Or.inl (hothers e hsecond)

theorem act_of_halt {s t : System} {id : Nat} (h : s.haltLoop id = some t) :
    s.Act (.halt id) t [] := by
  unfold haltLoop at h
  split at h
  · rename_i settings next htask
    cases Option.some.inj h
    exact .halt htask
  · exact absurd h nofun

/-- Every transition is one of those listed. -/
theorem act_of_apply {s t : System} {e : Event} {effects : List Effect}
    (h : s.apply e = some (t, effects)) : s.Act e t effects := by
  cases e with
  | poller e =>
      obtain ⟨p, seen, hp, rfl, rfl⟩ := poller_eq_some_iff.mp h
      exact .poller hp
  | set v =>
      simp only [apply] at h
      split at h
      · obtain ⟨c, hcell, hvalue, hturn, honly⟩ := turn_setStatus s v
        have ht : t = (s.setStatus v).1 := (congrArg Prod.fst (Option.some.inj h)).symm
        have heffects : effects = (s.setStatus v).2 :=
          (congrArg Prod.snd (Option.some.inj h)).symm
        rw [ht, heffects, hcell]
        exact .set hvalue hturn honly
      · exact absurd h nofun
  | boot | launch | check | fetch | shutdown =>
      cases Option.some.inj h
      exact .begin rfl
  | spawnLoop =>
      cases Option.some.inj h
      exact .spawnLoop
  | step id => exact act_of_step h
  | halt id =>
      obtain ⟨u, hhalt, heq⟩ := Option.map_eq_some_iff.mp h
      cases heq
      exact act_of_halt hhalt
  | deliver id reply =>
      obtain ⟨u, hdeliver, heq⟩ := Option.map_eq_some_iff.mp h
      cases heq
      obtain ⟨task, htask, hmap⟩ := Option.bind_eq_some_iff.mp hdeliver
      obtain ⟨next, hnext, rfl⟩ := Option.map_eq_some_iff.mp hmap
      exact .deliver htask hnext
  | drop id => exact act_of_drop h
  | askToEnd loop =>
      obtain ⟨settings, halting, phase, htask, rfl, rfl⟩ := askToEnd_eq_some_iff.mp h
      exact .askToEnd htask
  | dropHandle loop =>
      obtain ⟨⟨u, told⟩, hask, hrest⟩ := Option.bind_eq_some_iff.mp h
      obtain ⟨⟨v, more⟩, hrelease, heq⟩ := Option.bind_eq_some_iff.mp hrest
      obtain ⟨settings, halting, phase, htask, rfl, rfl⟩ := askToEnd_eq_some_iff.mp hask
      obtain ⟨p, seen, hp, rfl, rfl⟩ := releaseHandles_eq_some_iff.mp hrelease
      cases Option.some.inj heq
      exact .dropHandle htask hp
  | retainStatus =>
      cases Option.some.inj h
      exact .retainStatus
  | releaseStatus =>
      cases Option.some.inj h
      exact .releaseStatus

/-! ## The poller inside -/

theorem reachable_of_observerStep {s : System} {sub sub' : Subscription} {phase next : Observer}
    {p : Polling.System} {effects : List Effect} (hs : s.polling.Reachable)
    (h : Observer.Step s sub phase p sub' next effects) : p.Reachable := by
  cases h with
  | close hp | start hp | stop hp => exact hs.apply hp
  | look | started | reset => exact hs

theorem reachable_of_bootStep {s : System} {id : Nat} {phase next : Boot} {p : Polling.System}
    {c : Cell} {effects : List Effect} (hs : s.polling.Reachable)
    (h : Boot.Step s id phase p c next effects) : p.Reachable := by
  cases h with
  | start hp | stop hp => exact hs.apply hp
  | ask | failed | unrecognised | reported | started | reset => exact hs

/-! ## The status -/

theorem turn_of_shutdownStep {s t : System} {id observer loop : Nat} {phase : Shutdown}
    {effects : List Effect} (h : Shutdown.Step s id observer loop phase t effects) :
    Turn s.cell t.cell effects := by
  cases h with
  | signal | join => exact .still rfl rfl rfl
  | relieve | stop | release => exact .still rfl rfl (plain_map_poller _).1

/-- A transition of the watch is a transition of the status at most, which is counted and seen. -/
theorem turn_of_act {s t : System} {e : Event} {effects : List Effect} (h : s.Act e t effects) :
    Turn s.cell t.cell effects := by
  cases h with
  | poller | drop | dropHandle => exact .still rfl rfl (plain_map_poller _).1
  | set _ hturn | loop _ _ _ hturn | check _ _ hturn => exact hturn
  | boot _ _ _ hstep =>
      cases hstep with
      | reported _ _ hturn => exact hturn.congr rfl
      | ask | failed | unrecognised | started | reset => exact .still rfl rfl rfl
      | start | stop => exact .still rfl rfl (plain_map_poller _).1
  | observer _ _ _ hstep =>
      cases hstep with
      | look | started | reset => exact .still rfl rfl rfl
      | close | start | stop => exact .still rfl rfl (plain_map_poller _).1
  | launched =>
      refine .still rfl rfl ?_
      rw [transitions_append, (plain_map_poller _).1]
      rfl
  | fetch _ _ hsame => exact .still rfl rfl hsame
  | shutdown _ _ hstep => exact turn_of_shutdownStep hstep
  | begin | spawnLoop | halt | deliver | askToEnd | retainStatus | releaseStatus =>
      exact .still rfl rfl rfl

end System

end AlarmMonitor.Watch
