import AlarmMonitor.Proofs.Polling.Role

/-!
# The transitions of a poller, taken apart

What a transition does to the places of the tasks, one kind of event at a time, and what it does
to the shared state:

* `System.Act` lists the twelve transitions, each with what it asks for and what is behind it, and
  `act_eq_some_iff` says that these are the transitions that happen;
* `state_of_act`: a transition changes the state by its critical section only;
* `task?_of_act`: a transition leaves alone every task that it is not about;
* `isAlive_of_apply`: a poller that is given up stays given up.
-/

set_option autoImplicit false

namespace AlarmMonitor.Polling

/-- The task that an event is about. -/
def Event.task? : Event → Option Nat
  | .step id | .deliver id _ | .abort id | .drop id => some id
  | _ => none

namespace System

open AlarmMonitor.Backend (Reply)

/-! ## Places -/

theorem getElem?_setTask_self {s : System} {id : Nat} {slot : Slot}
    (h : s.slots[id]? = some slot) (t : Task) :
    (s.setTask id t).slots[id]? = some { slot with task := t } := by
  simp only [setTask, List.getElem?_modify, h, if_true]
  rfl

theorem getElem?_setTask_ne {s : System} {id place : Nat} (h : place ≠ id) (t : Task) :
    (s.setTask id t).slots[place]? = s.slots[place]? := by
  simp only [setTask, List.getElem?_modify, if_neg h.symm]
  exact Option.map_id'

theorem getElem?_markAborted_self {s : System} {id : Nat} {slot : Slot}
    (h : s.slots[id]? = some slot) :
    (s.markAborted id).slots[id]? = some { slot with aborted := true } := by
  simp only [markAborted, List.getElem?_modify, h, if_true]
  rfl

theorem getElem?_markAborted_ne {s : System} {id place : Nat} (h : place ≠ id) :
    (s.markAborted id).slots[place]? = s.slots[place]? := by
  simp only [markAborted, List.getElem?_modify, if_neg h.symm]
  exact Option.map_id'

/-- Telling a task to end changes no task. -/
theorem task?_markAborted (s : System) (id place : Nat) :
    (s.markAborted id).task? place = s.task? place := by
  simp only [task?, markAborted, List.getElem?_modify]
  cases s.slots[place]? with
  | none => rfl
  | some slot =>
      by_cases h : id = place
      · simp only [if_pos h]
        rfl
      · simp only [if_neg h]
        rfl

@[simp] theorem length_setTask (s : System) (id : Nat) (t : Task) :
    (s.setTask id t).slots.length = s.slots.length := List.length_modify _ _ _

@[simp] theorem length_markAborted (s : System) (id : Nat) :
    (s.markAborted id).slots.length = s.slots.length := List.length_modify _ _ _

theorem lt_length_of_getElem? {s : System} {place : Nat} {slot : Slot}
    (h : s.slots[place]? = some slot) : place < s.slots.length :=
  (List.getElem?_eq_some_iff.mp h).1

/-- A place behind a new task is an old place or that of the task. -/
theorem getElem?_addTask_eq_some_iff {s : System} {t : Task} {place : Nat} {slot : Slot} :
    (s.addTask t).slots[place]? = some slot ↔
      s.slots[place]? = some slot ∨ (place = s.slots.length ∧ slot = ⟨t, false⟩) := by
  simp only [addTask, List.getElem?_append]
  split
  · rename_i hlt
    constructor
    · exact Or.inl
    · rintro (h | ⟨rfl, _⟩)
      · exact h
      · exact absurd hlt (Nat.lt_irrefl _)
  · rename_i hle
    have hnone : s.slots[place]? = none := List.getElem?_eq_none (Nat.le_of_not_lt hle)
    rw [List.getElem?_singleton, hnone]
    constructor
    · intro h
      split at h
      · exact Or.inr ⟨by omega, (Option.some.inj h).symm⟩
      · exact absurd h (Option.some_ne_none slot).symm
    · rintro (h | ⟨rfl, rfl⟩)
      · exact absurd h (Option.some_ne_none slot).symm
      · rw [Nat.sub_self, if_pos rfl]

/-- The places behind a piece that creates no task. -/
theorem slots_leave_of_spawned_nil {s : System} {id : Nat} {p : Piece} (h : p.spawned = []) :
    (s.leave id p).slots = (s.setTask id p.task).slots := by
  simp only [leave, h, List.map_nil, List.append_nil, setTask]

/-- The places behind a piece that creates one task. -/
theorem slots_leave_of_spawned {s : System} {id : Nat} {p : Piece} {t : Task}
    (h : p.spawned = [t]) :
    (s.leave id p).slots = ((s.setTask id p.task).addTask t).slots := by
  simp only [leave, h, List.map_cons, List.map_nil, setTask, addTask]

/-! ## Who holds the poller -/

theorem isAlive_eq_true_iff {s : System} :
    s.isAlive = true ↔
      0 < s.handles ∨
        ∃ (place : Nat) (slot : Slot), s.slots[place]? = some slot ∧
          slot.task.holdsPoller = true := by
  have hany : ∀ f : Slot → Bool, s.slots.any f = true ↔
      ∃ (place : Nat) (slot : Slot), s.slots[place]? = some slot ∧ f slot = true := by
    intro f
    rw [List.any_eq_true]
    constructor
    · rintro ⟨slot, hmem, hf⟩
      obtain ⟨place, hplace⟩ := List.mem_iff_getElem?.mp hmem
      exact ⟨place, slot, hplace, hf⟩
    · rintro ⟨place, slot, hplace, hf⟩
      exact ⟨slot, List.mem_of_getElem? hplace, hf⟩
  simp only [isAlive, isOwned, Bool.or_eq_true, decide_eq_true_eq, hany, Task.holdsPoller]
  constructor
  · rintro ((h | ⟨place, slot, hplace, hf⟩) | ⟨place, slot, hplace, hf⟩)
    · exact Or.inl h
    · exact Or.inr ⟨place, slot, hplace, Or.inl hf⟩
    · exact Or.inr ⟨place, slot, hplace, Or.inr hf⟩
  · rintro (h | ⟨place, slot, hplace, hf | hf⟩)
    · exact Or.inl (Or.inl h)
    · exact Or.inl (Or.inr ⟨place, slot, hplace, hf⟩)
    · exact Or.inr ⟨place, slot, hplace, hf⟩

theorem isAlive_of_isOwned {s : System} (h : s.isOwned = true) : s.isAlive = true := by
  simp only [isAlive, h, Bool.true_or]

theorem isAlive_of_holdsPoller {s : System} {place : Nat} {slot : Slot}
    (h : s.slots[place]? = some slot) (hold : slot.task.holdsPoller = true) : s.isAlive = true :=
  isAlive_eq_true_iff.mpr (Or.inr ⟨place, slot, h, hold⟩)

theorem holdsPoller_eq_false {s : System} (hdead : s.isAlive = false) {place : Nat} {slot : Slot}
    (h : s.slots[place]? = some slot) : slot.task.holdsPoller = false := by
  rw [Bool.eq_false_iff]
  intro hold
  rw [isAlive_of_holdsPoller h hold] at hdead
  exact Bool.false_ne_true hdead.symm

/-! ## When a transition is possible -/

theorem whenOwned_eq_some_iff {s : System} {r x : System × List Effect} :
    s.whenOwned r = some x ↔ s.isOwned = true ∧ x = r := by
  unfold whenOwned
  split
  · rename_i h
    rw [Option.some.injEq]
    exact ⟨fun hr => ⟨h, hr.symm⟩, fun hr => hr.2.symm⟩
  · rename_i h
    exact ⟨nofun, fun hr => absurd hr.1 h⟩

theorem step_eq_some_iff {s u : System} {id : Nat} {effects : List Effect} :
    s.step id = some (u, effects) ↔
      ∃ slot p, s.slots[id]? = some slot ∧ (slot.aborted && slot.task.isSuspended) = false ∧
        slot.task.piece (s.context id) s.state = some p ∧ u = s.leave id p ∧
        effects = p.effects := by
  unfold step
  cases hslot : s.slots[id]? with
  | none => exact ⟨nofun, fun ⟨_, _, h, _⟩ => absurd h nofun⟩
  | some slot =>
      simp only [stepTask_eq]
      by_cases hblock : (slot.aborted && slot.task.isSuspended) = true
      · rw [if_pos hblock]
        constructor
        · exact nofun
        · rintro ⟨_, _, h, hfree, _⟩
          cases h
          rw [hblock] at hfree
          exact absurd hfree.symm Bool.false_ne_true
      · rw [if_neg hblock, Option.map_eq_some_iff]
        constructor
        · rintro ⟨p, hp, heq⟩
          cases heq
          exact ⟨slot, p, rfl, Bool.eq_false_iff.mpr hblock, hp, rfl, rfl⟩
        · rintro ⟨_, p, h, _, hp, rfl, rfl⟩
          cases h
          exact ⟨p, hp, rfl⟩

theorem task?_eq_some_iff {s : System} {id : Nat} {t : Task} :
    s.task? id = some t ↔ ∃ slot, s.slots[id]? = some slot ∧ slot.task = t :=
  Option.map_eq_some_iff

theorem deliver_eq_some_iff {s u : System} {id : Nat} {reply : Reply} :
    s.deliver id reply = some u ↔
      ∃ slot t, s.slots[id]? = some slot ∧ slot.task.deliver reply = some t ∧
        u = s.setTask id t := by
  unfold deliver
  rw [Option.bind_eq_some_iff]
  constructor
  · rintro ⟨_, htask, hmap⟩
    obtain ⟨slot, hslot, rfl⟩ := task?_eq_some_iff.mp htask
    obtain ⟨t, ht, rfl⟩ := Option.map_eq_some_iff.mp hmap
    exact ⟨slot, t, hslot, ht, rfl⟩
  · rintro ⟨slot, t, hslot, ht, rfl⟩
    exact ⟨slot.task, task?_eq_some_iff.mpr ⟨slot, hslot, rfl⟩, by rw [ht]; rfl⟩

theorem abort_eq_some_iff {s u : System} {id : Nat} {effects : List Effect} :
    s.abort id = some (u, effects) ↔
      ∃ slot, s.slots[id]? = some slot ∧ slot.task.isPendingCall = true ∧
        u = s.markAborted id ∧ effects = [.aborted id] := by
  unfold abort task?
  cases s.slots[id]? with
  | none => exact ⟨nofun, fun ⟨_, h, _⟩ => absurd h nofun⟩
  | some slot =>
      simp only [Option.map_some]
      by_cases hcall : slot.task.isPendingCall = true
      · rw [if_pos hcall, Option.some.injEq, Prod.mk.injEq]
        constructor
        · rintro ⟨rfl, rfl⟩
          exact ⟨slot, rfl, hcall, rfl, rfl⟩
        · rintro ⟨_, _, _, rfl, rfl⟩
          exact ⟨rfl, rfl⟩
      · rw [if_neg hcall]
        constructor
        · exact nofun
        · rintro ⟨_, h, hpending, _⟩
          cases h
          exact absurd hpending hcall

theorem drop_eq_some_iff {s u : System} {id : Nat} :
    s.drop id = some u ↔
      ∃ slot, s.slots[id]? = some slot ∧ slot.task.isSuspended = true ∧
        (slot.aborted = true ∨ slot.task.isTimer = false) ∧ u = s.setTask id slot.task.dropped := by
  unfold drop
  cases s.slots[id]? with
  | none => exact ⟨nofun, fun ⟨_, h, _⟩ => absurd h nofun⟩
  | some slot =>
      have hguard : (slot.task.isSuspended && (slot.aborted || !slot.task.isTimer)) = true ↔
          slot.task.isSuspended = true ∧ (slot.aborted = true ∨ slot.task.isTimer = false) := by
        simp only [Bool.and_eq_true, Bool.or_eq_true, Bool.not_eq_true']
      by_cases h : (slot.task.isSuspended && (slot.aborted || !slot.task.isTimer)) = true
      · obtain ⟨hsuspended, hdroppable⟩ := hguard.mp h
        simp only [if_pos h, Option.some.injEq]
        constructor
        · rintro rfl
          exact ⟨slot, rfl, hsuspended, hdroppable, rfl⟩
        · rintro ⟨_, rfl, _, _, rfl⟩
          rfl
      · simp only [if_neg h]
        constructor
        · exact nofun
        · rintro ⟨_, heq, hsuspended, hdroppable, _⟩
          cases heq
          exact absurd (hguard.mpr ⟨hsuspended, hdroppable⟩) h

/-! ## The transitions -/

/-- The transitions of a poller, before it is possibly given up. -/
inductive Act (s : System) : Event → System → List Effect → Prop where
  | start {options : Options} (howned : s.isOwned = true) :
      Act s (.start options) (s.addTask (.start (.entering options))) []
  | poll (howned : s.isOwned = true) : Act s .poll (s.addTask (.poll .ready)) []
  | step {id : Nat} {slot : Slot} {p : Piece} (hslot : s.slots[id]? = some slot)
      (hfree : (slot.aborted && slot.task.isSuspended) = false)
      (hp : slot.task.piece (s.context id) s.state = some p) :
      Act s (.step id) (s.leave id p) p.effects
  | deliver {id : Nat} {reply : Reply} {slot : Slot} {next : Task}
      (hslot : s.slots[id]? = some slot) (hnext : slot.task.deliver reply = some next) :
      Act s (.deliver id reply) (s.setTask id next) []
  | abort {id : Nat} {slot : Slot} (hslot : s.slots[id]? = some slot)
      (hcall : slot.task.isPendingCall = true) : Act s (.abort id) (s.markAborted id) [.aborted id]
  | drop {id : Nat} {slot : Slot} (hslot : s.slots[id]? = some slot)
      (hsuspended : slot.task.isSuspended = true)
      (hdroppable : slot.aborted = true ∨ slot.task.isTimer = false) :
      Act s (.drop id) (s.setTask id slot.task.dropped) []
  | configure {options : Options} (howned : s.isOwned = true) :
      Act s (.configure options) { s with state := (s.state.configure options).1 }
        (notes (s.state.configure options).2.2 ++ [.configured (s.state.configure options).2.1])
  | stop (howned : s.isOwned = true) : Act s .stop s.stop.1 s.stop.2
  | clearHistory (howned : s.isOwned = true) :
      Act s .clearHistory { s with state := s.state.clearHistory } []
  | tick {span : Duration} : Act s (.tick span) { s with now := s.now + span.nanos } []
  | retain (howned : s.isOwned = true) : Act s .retain { s with handles := s.handles + 1 } []
  | release (hheld : 0 < s.handles) : Act s .release { s with handles := s.handles - 1 } []

theorem act_eq_some_iff {s u : System} {e : Event} {effects : List Effect} :
    s.act e = some (u, effects) ↔ s.Act e u effects := by
  constructor
  · intro h
    cases e with
    | start options =>
        obtain ⟨howned, heq⟩ := whenOwned_eq_some_iff.mp h
        cases heq
        exact .start howned
    | poll =>
        obtain ⟨howned, heq⟩ := whenOwned_eq_some_iff.mp h
        cases heq
        exact .poll howned
    | step id =>
        obtain ⟨slot, p, hslot, hfree, hp, rfl, rfl⟩ := step_eq_some_iff.mp h
        exact .step hslot hfree hp
    | deliver id reply =>
        obtain ⟨v, hv, heq⟩ := Option.map_eq_some_iff.mp h
        cases heq
        obtain ⟨slot, next, hslot, hnext, rfl⟩ := deliver_eq_some_iff.mp hv
        exact .deliver hslot hnext
    | abort id =>
        obtain ⟨slot, hslot, hcall, rfl, rfl⟩ := abort_eq_some_iff.mp h
        exact .abort hslot hcall
    | drop id =>
        obtain ⟨v, hv, heq⟩ := Option.map_eq_some_iff.mp h
        cases heq
        obtain ⟨slot, hslot, hsuspended, hdroppable, rfl⟩ := drop_eq_some_iff.mp hv
        exact .drop hslot hsuspended hdroppable
    | configure options =>
        obtain ⟨howned, heq⟩ := whenOwned_eq_some_iff.mp h
        cases heq
        exact .configure howned
    | stop =>
        obtain ⟨howned, heq⟩ := whenOwned_eq_some_iff.mp h
        have hu : u = s.stop.1 := congrArg Prod.fst heq
        have heffects : effects = s.stop.2 := congrArg Prod.snd heq
        rw [hu, heffects]
        exact .stop howned
    | clearHistory =>
        obtain ⟨howned, heq⟩ := whenOwned_eq_some_iff.mp h
        cases heq
        exact .clearHistory howned
    | tick span =>
        cases Option.some.inj h
        exact .tick
    | retain =>
        obtain ⟨howned, heq⟩ := whenOwned_eq_some_iff.mp h
        cases heq
        exact .retain howned
    | release =>
        simp only [act] at h
        split at h
        · rename_i hheld
          cases Option.some.inj h
          exact .release hheld
        · exact absurd h (Option.some_ne_none (u, effects)).symm
  · intro h
    cases h with
    | start howned | poll howned | configure howned | stop howned | clearHistory howned
    | retain howned => exact whenOwned_eq_some_iff.mpr ⟨howned, rfl⟩
    | step hslot hfree hp => exact step_eq_some_iff.mpr ⟨_, _, hslot, hfree, hp, rfl, rfl⟩
    | deliver hslot hnext =>
        exact Option.map_eq_some_iff.mpr
          ⟨_, deliver_eq_some_iff.mpr ⟨_, _, hslot, hnext, rfl⟩, rfl⟩
    | abort hslot hcall => exact abort_eq_some_iff.mpr ⟨_, hslot, hcall, rfl, rfl⟩
    | drop hslot hsuspended hdroppable =>
        exact Option.map_eq_some_iff.mpr
          ⟨_, drop_eq_some_iff.mpr ⟨_, hslot, hsuspended, hdroppable, rfl⟩, rfl⟩
    | tick => rfl
    | release hheld => exact if_pos hheld

/-! ## Giving up a poller -/

theorem apply_eq_some_iff {s t : System} {e : Event} {effects : List Effect} :
    s.apply e = some (t, effects) ↔ ∃ u, s.act e = some (u, effects) ∧ t = u.reap := by
  unfold apply
  rw [Option.map_eq_some_iff]
  constructor
  · rintro ⟨⟨u, _⟩, hact, heq⟩
    cases heq
    exact ⟨u, hact, rfl⟩
  · rintro ⟨u, hact, rfl⟩
    exact ⟨(u, effects), hact, rfl⟩

theorem reap_of_alive {s : System} (h : s.isAlive = true) : s.reap = s := by
  unfold reap
  rw [if_pos h]

/-- A poller that is given up has no timer. -/
theorem state_reap_of_dead {s : System} (h : s.isAlive = false) :
    s.reap.state = { s.state with timer := none } := by
  unfold reap
  rw [h, if_neg Bool.false_ne_true]
  split
  · rfl
  · rename_i hnone
    rw [← hnone]

/-- Giving up a poller takes its timer and nothing else of its state. -/
theorem state_reap (s : System) :
    s.reap.state = s.state ∨ s.reap.state = { s.state with timer := none } := by
  rcases Bool.eq_false_or_eq_true s.isAlive with halive | hdead
  · rw [reap_of_alive halive]
    exact Or.inl rfl
  · exact Or.inr (state_reap_of_dead hdead)

theorem config_reap (s : System) : s.reap.state.config = s.state.config := by
  rcases state_reap s with h | h <;> rw [h]

theorem lastCycle_reap (s : System) : s.reap.state.lastCycle = s.state.lastCycle := by
  rcases state_reap s with h | h <;> rw [h]

theorem now_reap (s : System) : s.reap.now = s.now := by
  unfold reap
  split
  · rfl
  · split <;> rfl

/-- Giving up a poller changes no task. -/
theorem task?_reap (s : System) (place : Nat) : s.reap.task? place = s.task? place := by
  unfold reap
  split
  · rfl
  · split
    · exact task?_markAborted s _ place
    · rfl

@[simp] theorem handles_reap (s : System) : s.reap.handles = s.handles := by
  unfold reap
  split
  · rfl
  · split <;> rfl

/-- Two systems with the same handles and tasks are held alike. -/
theorem isAlive_congr {s t : System} (hhandles : t.handles = s.handles)
    (htask : ∀ place, t.task? place = s.task? place) : t.isAlive = s.isAlive := by
  have hslot : ∀ a b : System, (∀ place, b.task? place = a.task? place) →
      b.handles = a.handles → a.isAlive = true → b.isAlive = true := by
    intro a b htask hhandles halive
    rcases isAlive_eq_true_iff.mp halive with h | ⟨place, slot, hslot, hold⟩
    · exact isAlive_eq_true_iff.mpr (Or.inl (hhandles ▸ h))
    · have hb : b.task? place = some slot.task := by
        rw [htask place]
        exact task?_eq_some_iff.mpr ⟨slot, hslot, rfl⟩
      obtain ⟨slot', hslot', heq⟩ := task?_eq_some_iff.mp hb
      exact isAlive_of_holdsPoller hslot' (heq ▸ hold)
  rw [Bool.eq_iff_iff]
  exact ⟨hslot t s (fun place => (htask place).symm) hhandles.symm,
    hslot s t htask hhandles⟩

@[simp] theorem isAlive_reap (s : System) : s.reap.isAlive = s.isAlive :=
  isAlive_congr (handles_reap s) (task?_reap s)

/-! ## The critical section of a transition -/

/-- The critical section in a transition, if there is one. -/
def section? (s : System) : Event → Option Section
  | .step id => (s.task? id).bind fun t => t.section? (s.context id)
  | .configure options => some (.configure options)
  | .stop => some .stop
  | .clearHistory => some .clearHistory
  | _ => none

theorem state_stop (s : System) : s.stop.1.state = s.state.stop := by
  simp only [stop]
  cases s.state.timer <;> rfl

/-- Stopping changes no task. -/
theorem task?_stop (s : System) (place : Nat) : s.stop.1.task? place = s.task? place := by
  simp only [stop]
  cases s.state.timer with
  | none => rfl
  | some t => exact task?_markAborted { s with state := s.state.stop } t.task place

/-- A transition changes the state by its critical section only. -/
theorem state_of_act {s u : System} {e : Event} {effects : List Effect}
    (h : s.act e = some (u, effects)) : u.state = s.state.through (s.section? e) := by
  cases act_eq_some_iff.mp h with
  | @step id slot p hslot _ hp =>
      have htask : s.task? id = some slot.task := task?_eq_some_iff.mpr ⟨slot, hslot, rfl⟩
      simp only [section?, htask, Option.bind_some]
      exact Task.state_of_piece hp
  | stop => exact state_stop s
  | start | poll | deliver | abort | drop | configure | clearHistory | tick | retain
  | release => rfl

/-- A poller that is given up loses its timer besides. -/
theorem state_of_apply {s t : System} {e : Event} {effects : List Effect}
    (h : s.apply e = some (t, effects)) :
    t.state = s.state.through (s.section? e) ∨
      t.state = { s.state.through (s.section? e) with timer := none } := by
  obtain ⟨u, hact, rfl⟩ := apply_eq_some_iff.mp h
  rw [← state_of_act hact]
  exact state_reap u

/-! ## The tasks that a transition leaves alone -/

theorem task?_setTask_ne {s : System} {id place : Nat} (h : place ≠ id) (t : Task) :
    (s.setTask id t).task? place = s.task? place := by
  unfold task?
  rw [getElem?_setTask_ne h]

theorem task?_setTask_self {s : System} {id : Nat} {slot : Slot} (h : s.slots[id]? = some slot)
    (t : Task) : (s.setTask id t).task? id = some t := by
  unfold task?
  rw [getElem?_setTask_self h]
  rfl

theorem task?_addTask {s : System} {place : Nat} {t : Task} (h : s.task? place = some t)
    (new : Task) : (s.addTask new).task? place = some t := by
  obtain ⟨slot, hslot, rfl⟩ := task?_eq_some_iff.mp h
  have hnew : (s.addTask new).slots[place]? = some slot :=
    getElem?_addTask_eq_some_iff.mpr (Or.inl hslot)
  exact task?_eq_some_iff.mpr ⟨slot, hnew, rfl⟩

theorem task?_leave_self {s : System} {id : Nat} {slot : Slot} {p : Piece}
    (h : s.slots[id]? = some slot) : (s.leave id p).task? id = some p.task := by
  have hlength : id < (s.setTask id p.task).slots.length := by
    rw [length_setTask]
    exact lt_length_of_getElem? h
  have hslots : (s.leave id p).slots[id]? = (s.setTask id p.task).slots[id]? :=
    List.getElem?_append_left hlength
  unfold task?
  rw [hslots, getElem?_setTask_self h]
  rfl

theorem task?_leave_ne {s : System} {id place : Nat} {t : Task} (p : Piece) (h : place ≠ id)
    (ht : s.task? place = some t) : (s.leave id p).task? place = some t := by
  rw [← task?_setTask_ne h p.task] at ht
  obtain ⟨slot, hslot, rfl⟩ := task?_eq_some_iff.mp ht
  have hslots : (s.leave id p).slots[place]? = (s.setTask id p.task).slots[place]? :=
    List.getElem?_append_left (lt_length_of_getElem? hslot)
  exact task?_eq_some_iff.mpr ⟨slot, hslots.trans hslot, rfl⟩

/-- A transition leaves every task alone that it is not about. -/
theorem task?_of_act {s u : System} {e : Event} {effects : List Effect} {id : Nat} {t : Task}
    (h : s.act e = some (u, effects)) (he : e.task? ≠ some id) (ht : s.task? id = some t) :
    u.task? id = some t := by
  have hne : ∀ {other}, e.task? = some other → id ≠ other := by
    rintro other heq rfl
    exact he heq
  cases act_eq_some_iff.mp h with
  | start | poll => exact task?_addTask ht _
  | @step other slot p hslot _ hp => exact task?_leave_ne p (hne rfl) ht
  | deliver | drop =>
      rw [task?_setTask_ne (hne rfl)]
      exact ht
  | abort =>
      rw [task?_markAborted]
      exact ht
  | stop =>
      rw [task?_stop]
      exact ht
  | configure | clearHistory | tick | retain | release => exact ht

theorem task?_of_apply {s u : System} {e : Event} {effects : List Effect} {id : Nat} {t : Task}
    (h : s.apply e = some (u, effects)) (he : e.task? ≠ some id) (ht : s.task? id = some t) :
    u.task? id = some t := by
  obtain ⟨v, hact, rfl⟩ := apply_eq_some_iff.mp h
  rw [task?_reap]
  exact task?_of_act hact he ht

/-- Where the task at a place behind a transition comes from. -/
inductive Origin (s : System) (e : Event) (place : Nat) : Task → Prop where
  /-- It was there before. -/
  | kept {t : Task} (h : s.task? place = some t) : Origin s e place t
  /-- A call begins. -/
  | call {t : Task} (h : t = .poll .ready ∨ ∃ options, t = .start (.entering options)) :
      Origin s e place t
  /-- A start left a timer behind. -/
  | spawned (session : Nat) : Origin s e place (.timer session .spawned)
  | stepped {t : Task} {p : Piece} (h : s.task? place = some t)
      (hp : t.piece (s.context place) s.state = some p) : Origin s e place p.task
  | delivered {t next : Task} {reply : Reply} (h : s.task? place = some t)
      (hd : t.deliver reply = some next) : Origin s e place next
  | dropped {t : Task} (h : s.task? place = some t) : Origin s e place t.dropped

theorem origin_of_addTask {s : System} {e : Event} {place : Nat} {t new : Task}
    (ht : (s.addTask new).task? place = some t)
    (hnew : new = .poll .ready ∨ ∃ options, new = .start (.entering options)) :
    s.Origin e place t := by
  obtain ⟨slot, hslot, rfl⟩ := task?_eq_some_iff.mp ht
  rcases getElem?_addTask_eq_some_iff.mp hslot with hold | ⟨_, rfl⟩
  · exact .kept (task?_eq_some_iff.mpr ⟨slot, hold, rfl⟩)
  · exact .call hnew

theorem origin_of_leave {s : System} {e : Event} {id place : Nat} {slot : Slot} {t : Task}
    {p : Piece} (hslot : s.slots[id]? = some slot)
    (hp : slot.task.piece (s.context id) s.state = some p)
    (ht : (s.leave id p).task? place = some t) : s.Origin e place t := by
  by_cases hplace : place = id
  · rw [hplace, task?_leave_self hslot] at ht
    cases ht
    exact .stepped (task?_eq_some_iff.mpr ⟨slot, hplace ▸ hslot, rfl⟩) (hplace ▸ hp)
  · rcases Task.spawned_of_piece hp with hspawned | ⟨session, hspawned⟩
    · unfold task? at ht
      rw [slots_leave_of_spawned_nil hspawned, getElem?_setTask_ne hplace] at ht
      exact .kept ht
    · obtain ⟨slot', hslot', rfl⟩ := task?_eq_some_iff.mp ht
      rw [slots_leave_of_spawned hspawned] at hslot'
      rcases getElem?_addTask_eq_some_iff.mp hslot' with hold | ⟨_, rfl⟩
      · rw [getElem?_setTask_ne hplace] at hold
        exact .kept (task?_eq_some_iff.mpr ⟨slot', hold, rfl⟩)
      · exact .spawned session

/-- Every task behind a transition was there before, or is a new call or a new timer, or is what
the transition made of the task at its place. -/
theorem origin_of_act {s u : System} {e : Event} {effects : List Effect} {place : Nat} {t : Task}
    (h : s.act e = some (u, effects)) (ht : u.task? place = some t) : s.Origin e place t := by
  cases act_eq_some_iff.mp h with
  | @start options => exact origin_of_addTask ht (Or.inr ⟨options, rfl⟩)
  | poll => exact origin_of_addTask ht (Or.inl rfl)
  | step hslot _ hp => exact origin_of_leave hslot hp ht
  | @deliver id _ slot next hslot hnext =>
      by_cases hplace : place = id
      · rw [hplace, task?_setTask_self hslot] at ht
        cases ht
        exact .delivered (task?_eq_some_iff.mpr ⟨slot, hplace ▸ hslot, rfl⟩) hnext
      · rw [task?_setTask_ne hplace] at ht
        exact .kept ht
  | abort =>
      rw [task?_markAborted] at ht
      exact .kept ht
  | @drop id slot hslot =>
      by_cases hplace : place = id
      · rw [hplace, task?_setTask_self hslot] at ht
        cases ht
        exact .dropped (task?_eq_some_iff.mpr ⟨slot, hplace ▸ hslot, rfl⟩)
      · rw [task?_setTask_ne hplace] at ht
        exact .kept ht
  | stop =>
      rw [task?_stop] at ht
      exact .kept ht
  | configure | clearHistory | tick | retain | release => exact .kept ht

theorem origin_of_apply {s u : System} {e : Event} {effects : List Effect} {place : Nat}
    {t : Task} (h : s.apply e = some (u, effects)) (ht : u.task? place = some t) :
    s.Origin e place t := by
  obtain ⟨v, hact, rfl⟩ := apply_eq_some_iff.mp h
  rw [task?_reap] at ht
  exact origin_of_act hact ht

/-! ## A poller that is given up stays given up -/

theorem holdsPoller_of_deliver {t next : Task} {reply : Reply}
    (h : t.deliver reply = some next) : t.holdsPoller = true := by
  cases t with
  | start phase => cases phase <;> first | rfl | exact absurd h nofun
  | poll cycle => cases cycle <;> first | rfl | exact absurd h nofun
  | timer session phase => cases phase <;> first | rfl | exact absurd h nofun
  | gone => exact absurd h nofun

theorem isAlive_of_act {s u : System} {e : Event} {effects : List Effect}
    (h : s.act e = some (u, effects)) (halive : u.isAlive = true) : s.isAlive = true := by
  cases act_eq_some_iff.mp h with
  | start howned | poll howned | configure howned | stop howned | clearHistory howned
  | retain howned => exact isAlive_of_isOwned howned
  | tick => exact halive
  | release hheld => exact isAlive_eq_true_iff.mpr (Or.inl hheld)
  | abort hslot hcall =>
      exact isAlive_of_holdsPoller hslot (by simp only [Task.holdsPoller, hcall, Bool.true_or])
  | deliver hslot hnext => exact isAlive_of_holdsPoller hslot (holdsPoller_of_deliver hnext)
  | @drop id slot hslot =>
      rcases isAlive_eq_true_iff.mp halive with hheld | ⟨place, slot', hslot', hold⟩
      · exact isAlive_eq_true_iff.mpr (Or.inl hheld)
      · by_cases hplace : place = id
        · subst hplace
          rw [getElem?_setTask_self hslot] at hslot'
          cases Option.some.inj hslot'
          -- what is left of a dropped task holds the poller only if the task was a start
          refine isAlive_of_holdsPoller hslot ?_
          cases htask : slot.task with
          | start phase => cases phase <;> first | rfl | (rw [htask] at hold; exact absurd hold nofun)
          | poll cycle | timer session phase | gone =>
              rw [htask] at hold
              exact absurd hold nofun
        · rw [getElem?_setTask_ne hplace] at hslot'
          exact isAlive_of_holdsPoller hslot' hold
  | @step id slot p hslot _ hp =>
      rcases Bool.eq_false_or_eq_true s.isAlive with halive' | hdead
      · exact halive'
      · obtain ⟨hfree, hspawned⟩ :=
          Task.holdsPoller_of_piece hp hdead (holdsPoller_eq_false hdead hslot)
        rcases isAlive_eq_true_iff.mp halive with hheld | ⟨place, slot', hslot', hold⟩
        · exact isAlive_eq_true_iff.mpr (Or.inl hheld)
        · rw [slots_leave_of_spawned_nil hspawned] at hslot'
          by_cases hplace : place = id
          · subst hplace
            rw [getElem?_setTask_self hslot] at hslot'
            cases Option.some.inj hslot'
            rw [hfree] at hold
            exact absurd hold Bool.false_ne_true
          · rw [getElem?_setTask_ne hplace] at hslot'
            exact isAlive_of_holdsPoller hslot' hold

theorem isAlive_of_apply {s t : System} {e : Event} {effects : List Effect}
    (h : s.apply e = some (t, effects)) (halive : t.isAlive = true) : s.isAlive = true := by
  obtain ⟨u, hact, rfl⟩ := apply_eq_some_iff.mp h
  rw [isAlive_reap] at halive
  exact isAlive_of_act hact halive

end System

end AlarmMonitor.Polling
