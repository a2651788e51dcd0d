import AlarmMonitor.Proofs.Polling.Leftover
import AlarmMonitor.Proofs.Polling.Renumber

/-!
# Two pollers side by side

`System.Mirror s u v` compares a poller `u`, which was the stopped poller `s` some time ago, with a
poller `v` that has none of the work that `s` had left over.  The two agree but for the numbers of
their sessions, and the work left over is to be found in `u` alone.

* `System.Mirror.apply`: what concerns no work left over does the same to both;
* `System.Mirror.left_of_apply`: what concerns work left over is invisible in the other poller;
* `System.Mirror.run`: whole runs.
-/

set_option autoImplicit false

namespace AlarmMonitor.Polling

/-- A piece of a task keeps the installed timer or installs one at the next place. -/
theorem Task.timer_of_piece {c : Context} {s : State} {t : Task} {p : Piece}
    (h : t.piece c s = some p) :
    p.state.timer = s.timer ∨ ∃ n, p.state.timer = some ⟨c.next, n⟩ := by
  have hadvance := advance_of_piece h
  generalize t.role = r at hadvance
  cases hadvance with
  | arm _ hc => exact Or.inr ⟨_, (State.control_eq_mk_iff.mp hc).2.2⟩
  | enter _ hc | rollBack _ _ hc => exact Or.inl (State.control_eq_mk_iff.mp hc).2.2
  | quiet hc | pass _ hc | finish _ _ hc | retire _ hc =>
      exact Or.inl (State.control_eq_iff.mp hc).2.2

/-- A piece of a task does not go back to an earlier period or pause. -/
theorem Task.epoch_le_of_piece {c : Context} {s : State} {t : Task} {p : Piece}
    (h : t.piece c s = some p) : s.epoch ≤ p.state.epoch := by
  rw [state_of_piece h]
  cases t.section? c with
  | none => exact Nat.le_refl _
  | some sect => exact Section.epoch_le_apply sect s

/-- Can callers, the backend and the sink tell?  The log cannot be told, nor where a task is told to
end. -/
def Effect.isPublic : Effect → Bool
  | .note _ | .aborted _ => false
  | .request .. | .show _ | .configured _ | .spawned _ => true

namespace System

/-- Is there a task at this place that has begun? -/
def leftOver (s : System) (id : Nat) : Bool :=
  match s.task? id with
  | some t => !t.isUnbegun
  | none => false

/-- Does the event concern no task left over? -/
def spares (s : System) (e : Event) : Bool :=
  match e.task? with
  | some id => !s.leftOver id
  | none => true

theorem lt_length_of_leftOver {s : System} {id : Nat} (h : s.leftOver id = true) :
    id < s.slots.length := by
  unfold leftOver at h
  split at h
  · rename_i t ht
    obtain ⟨slot, hslot, _⟩ := task?_eq_some_iff.mp ht
    exact lt_length_of_getElem? hslot
  · exact absurd h nofun

theorem ne_of_leftOver {s : System} {a b : Nat} (ha : s.leftOver a = true)
    (hb : s.leftOver b = false) : a ≠ b := by
  rintro rfl
  rw [ha] at hb
  exact absurd hb.symm Bool.false_ne_true

theorem spares_eq_true_iff {s : System} {e : Event} :
    s.spares e = true ↔ ∀ id, e.task? = some id → s.leftOver id = false := by
  unfold spares
  cases e.task? with
  | none => exact ⟨fun _ => nofun, fun _ => rfl⟩
  | some id =>
      simp only [Bool.not_eq_true', Option.some.injEq]
      exact ⟨fun h other heq => heq ▸ h, fun h => h id rfl⟩

theorem spares_eq_false_iff {s : System} {e : Event} :
    s.spares e = false ↔ ∃ id, e.task? = some id ∧ s.leftOver id = true := by
  unfold spares
  cases e.task? with
  | none => exact ⟨nofun, fun ⟨_, h, _⟩ => absurd h nofun⟩
  | some id =>
      simp only [Bool.not_eq_false', Option.some.injEq]
      exact ⟨fun h => ⟨id, rfl, h⟩, fun ⟨_, heq, h⟩ => heq ▸ h⟩

/-- The poller `u`, once the stopped poller `s`, agrees with `v` but for the numbers of the
sessions and for the work that `s` had left over. -/
structure Mirror (s u v : System) : Prop where
  hint : u.hint = v.hint
  now : u.now = v.now
  handles : u.handles = v.handles
  state : u.state = v.state.shift s.state.session
  length : u.slots.length = v.slots.length
  /-- Other tasks differ by the numbers of their sessions. -/
  same : ∀ {place}, s.leftOver place = false →
    u.slots[place]? = (v.slots[place]?).map (·.shift s.state.session)
  /-- A task left over had come to its end, or has gone on as such tasks do. -/
  left : ∀ {place slot}, s.leftOver place = true → u.slots[place]? = some slot →
    (slot.task.isFinished = true ∧ s.task? place = some slot.task) ∨
      slot.Pending s.state.session
  /-- The installed timer is not left over. -/
  timer : ∀ t, v.state.timer = some t → s.leftOver t.task = false
  within : s.slots.length ≤ v.slots.length
  /-- The sessions of `v` are numbered from one. -/
  begun : 1 ≤ v.state.epoch

theorem reap_of_held {s : System} (h : 0 < s.handles) : s.reap = s :=
  reap_of_alive (isAlive_eq_true_iff.mpr (Or.inl h))

theorem whenOwned_of_held {s : System} (h : 0 < s.handles) (r : System × List Effect) :
    s.whenOwned r = some r := by
  have howned : s.isOwned = true := by simp only [isOwned, decide_eq_true h, Bool.true_or]
  exact whenOwned_eq_some_iff.mpr ⟨howned, rfl⟩

/-- Handles that outlast a list of events outlast the rest of it behind the first event. -/
theorem held_of_act {s u : System} {e : Event} {rest : List Event} {effects : List Effect}
    (hheld : (e :: rest).count .release < s.handles) (h : s.act e = some (u, effects)) :
    rest.count .release < u.handles := by
  have hsame : ∀ {w : System}, e ≠ .release → w.handles = s.handles →
      rest.count .release < w.handles := by
    intro w hne heq
    rw [List.count_cons_of_ne hne] at hheld
    rw [heq]
    exact hheld
  cases act_eq_some_iff.mp h with
  | start | poll | step | deliver | abort | drop | configure | clearHistory | tick =>
      exact hsame nofun rfl
  | stop =>
      have hstop : s.stop.1.handles = s.handles := by
        unfold stop
        cases s.state.timer <;> rfl
      exact hsame nofun hstop
  | retain => exact Nat.lt_succ_of_lt (hsame nofun rfl)
  | release =>
      rw [List.count_cons_self] at hheld
      exact Nat.lt_sub_of_add_lt hheld

theorem held_of_apply {s t : System} {e : Event} {rest : List Event} {effects : List Effect}
    (hheld : (e :: rest).count .release < s.handles) (h : s.apply e = some (t, effects)) :
    rest.count .release < t.handles := by
  obtain ⟨u, hact, rfl⟩ := apply_eq_some_iff.mp h
  rw [handles_reap]
  exact held_of_act hheld hact

namespace Mirror

variable {s u v : System}

/-- The sessions that run are later than those of the work left over. -/
theorem beyond (hm : Mirror s u v) (hrun : u.state.running = true) :
    s.state.session < u.state.session := by
  have hbegun := hm.begun
  rw [hm.state] at hrun ⊢
  have hrun' : v.state.running = true := hrun
  have hsession : (v.state.shift s.state.session).session =
      v.state.session + s.state.session := rfl
  rw [State.epoch_of_running hrun'] at hbegun
  omega

/-- A place that has something in `v` and is not left over has the same in `u`. -/
theorem getElem?_of_some (hm : Mirror s u v) {id : Nat} (hid : s.leftOver id = false) {slot : Slot}
    (h : v.slots[id]? = some slot) : u.slots[id]? = some (slot.shift s.state.session) := by
  rw [hm.same hid, h]
  rfl

theorem getElem?_of_none (hm : Mirror s u v) {id : Nat} (hid : s.leftOver id = false)
    (h : v.slots[id]? = none) : u.slots[id]? = none := by
  rw [hm.same hid, h]
  rfl

/-! ## Changes that both make -/

/-- Both go on to the same state. -/
theorem withState (hm : Mirror s u v) (state : State)
    (htimer : ∀ t, state.timer = some t → s.leftOver t.task = false) (hepoch : 1 ≤ state.epoch) :
    Mirror s { u with state := state.shift s.state.session } { v with state } :=
  ⟨hm.hint, hm.now, hm.handles, rfl, hm.length, hm.same, hm.left, htimer, hm.within, hepoch⟩

/-- Both change the task at a place in the same way. -/
theorem modify (hm : Mirror s u v) {id : Nat} (hid : s.leftOver id = false) {f g : Slot → Slot}
    (hfg : ∀ slot : Slot, f (slot.shift s.state.session) = (g slot).shift s.state.session) :
    Mirror s { u with slots := u.slots.modify id f } { v with slots := v.slots.modify id g } := by
  refine ⟨hm.hint, hm.now, hm.handles, hm.state, ?_, ?_, ?_, hm.timer, ?_, hm.begun⟩
  · simp only [List.length_modify]
    exact hm.length
  · intro place hplace
    simp only [List.getElem?_modify, hm.same hplace]
    cases v.slots[place]? with
    | none => rfl
    | some slot =>
        by_cases heq : id = place
        · simp only [heq, if_true]
          exact congrArg some (hfg slot)
        · simp only [heq, if_false]
          rfl
  · intro place slot hplace hslot
    have hne : id ≠ place := (ne_of_leftOver hplace hid).symm
    have hold : (u.slots.modify id f)[place]? = u.slots[place]? := by
      simp only [List.getElem?_modify, if_neg hne]
      exact Option.map_id'
    exact hm.left hplace (hold.symm.trans hslot)
  · simp only [List.length_modify]
    exact hm.within

theorem setTask (hm : Mirror s u v) {id : Nat} (hid : s.leftOver id = false) (t : Task) :
    Mirror s (u.setTask id (t.shift s.state.session)) (v.setTask id t) :=
  hm.modify hid fun _ => rfl

theorem markAborted (hm : Mirror s u v) {id : Nat} (hid : s.leftOver id = false) :
    Mirror s (u.markAborted id) (v.markAborted id) :=
  hm.modify hid fun _ => rfl

theorem addTask (hm : Mirror s u v) (t : Task) :
    Mirror s (u.addTask (t.shift s.state.session)) (v.addTask t) := by
  have hlength : ∀ (w : System) (t : Task), (w.addTask t).slots.length = w.slots.length + 1 :=
    fun w t => List.length_append
  refine ⟨hm.hint, hm.now, hm.handles, hm.state, ?_, ?_, ?_, hm.timer, ?_, hm.begun⟩
  · rw [hlength, hlength, hm.length]
  · intro place hplace
    refine Option.ext fun slot => ?_
    rw [getElem?_addTask_eq_some_iff, hm.same hplace, hm.length, Option.map_eq_some_iff,
      Option.map_eq_some_iff]
    constructor
    · rintro (⟨old, hold, rfl⟩ | ⟨hnew, rfl⟩)
      · exact ⟨old, getElem?_addTask_eq_some_iff.mpr (Or.inl hold), rfl⟩
      · exact ⟨⟨t, false⟩, getElem?_addTask_eq_some_iff.mpr (Or.inr ⟨hnew, rfl⟩), rfl⟩
    · rintro ⟨old, hold, rfl⟩
      rcases getElem?_addTask_eq_some_iff.mp hold with hbefore | ⟨hnew, rfl⟩
      · exact Or.inl ⟨old, hbefore, rfl⟩
      · exact Or.inr ⟨hnew, rfl⟩
  · intro place slot hplace hslot
    rcases getElem?_addTask_eq_some_iff.mp hslot with hbefore | ⟨hnew, _⟩
    · exact hm.left hplace hbefore
    · have hlt := lt_length_of_leftOver hplace
      have hwithin := hm.within
      rw [hnew, hm.length] at hlt
      omega
  · rw [hlength]
    exact Nat.le_succ_of_le hm.within

/-! ## Transitions that concern no work left over -/

theorem not_leftOver_of_ge (hm : Mirror s u v) {id : Nat} (h : v.slots.length ≤ id) :
    s.leftOver id = false := by
  rw [Bool.eq_false_iff]
  intro hleft
  have hlt := lt_length_of_leftOver hleft
  have hwithin := hm.within
  omega

/-- Tasks of the two see the same of their pollers. -/
theorem context_eq (hm : Mirror s u v) (hheld : 0 < u.handles) (id : Nat) :
    u.context id = v.context id := by
  have hu : u.isAlive = true := isAlive_eq_true_iff.mpr (Or.inl hheld)
  have hv : v.isAlive = true := isAlive_eq_true_iff.mpr (Or.inl (hm.handles ▸ hheld))
  simp only [context, hm.hint, hm.now, hm.length, hu, hv]

/-- Both go through the same piece of a task. -/
theorem leave (hm : Mirror s u v) {id : Nat} (hid : s.leftOver id = false) {t : Task} {p : Piece}
    (hp : t.piece (v.context id) v.state = some p) :
    Mirror s (u.leave id (p.shift s.state.session)) (v.leave id p) := by
  have htimer : ∀ r, p.state.timer = some r → s.leftOver r.task = false := by
    intro r hr
    rcases Task.timer_of_piece hp with hsame | ⟨n, hnext⟩
    · exact hm.timer r (hsame ▸ hr)
    · rw [hnext] at hr
      cases hr
      exact hm.not_leftOver_of_ge (Nat.le_refl _)
  have hbegun : 1 ≤ p.state.epoch := Nat.le_trans hm.begun (Task.epoch_le_of_piece hp)
  have hset := (hm.withState p.state htimer hbegun).setTask hid p.task
  obtain ⟨state, task, spawned, effects⟩ := p
  rcases Task.spawned_of_piece hp with hspawned | ⟨n, hspawned⟩
  · cases hspawned
    rw [leave_of_spawned_nil]
    exact (u.leave_of_spawned_nil id _ _ effects) ▸ hset
  · cases hspawned
    exact hset.addTask (.timer n .spawned)

/-- The same comes of a transition of both: it is possible for none of them, or for both with the
same effects, and they agree behind it. -/
def Alike (s : System) : Option (System × List Effect) → Option (System × List Effect) → Prop :=
  Option.Rel fun a b => Mirror s a.1 b.1 ∧ a.2 = b.2

theorem Alike.of_some {effects : List Effect} {b : Option (System × List Effect)}
    (h : Alike s (some (u, effects)) b) : ∃ v, b = some (v, effects) ∧ Mirror s u v := by
  cases h with
  | @some _ b hab => exact ⟨b.1, congrArg some (Prod.ext rfl hab.2.symm), hab.1⟩

theorem Alike.to_some {effects : List Effect} {a : Option (System × List Effect)}
    (h : Alike s a (some (v, effects))) : ∃ u, a = some (u, effects) ∧ Mirror s u v := by
  cases h with
  | @some a _ hab => exact ⟨a.1, congrArg some (Prod.ext rfl hab.2), hab.1⟩

theorem Alike.of_none {b : Option (System × List Effect)} (h : Alike s none b) : b = none := by
  cases h with
  | none => rfl

theorem step (hm : Mirror s u v) (hheld : 0 < u.handles) {id : Nat}
    (hid : s.leftOver id = false) : Alike s (u.step id) (v.step id) := by
  unfold System.step
  cases hslot : v.slots[id]? with
  | none =>
      rw [hm.getElem?_of_none hid hslot]
      exact .none
  | some slot =>
      rw [hm.getElem?_of_some hid hslot]
      simp only [Slot.shift, Task.isSuspended_shift, stepTask_eq, hm.context_eq hheld, hm.state,
        Task.piece_shift]
      by_cases hblock : (slot.aborted && slot.task.isSuspended) = true
      · rw [if_pos hblock, if_pos hblock]
        exact .none
      · rw [if_neg hblock, if_neg hblock]
        cases hp : slot.task.piece (v.context id) v.state with
        | none => exact .none
        | some p => exact .some ⟨hm.leave hid hp, rfl⟩

theorem deliver (hm : Mirror s u v) {id : Nat} (hid : s.leftOver id = false)
    (reply : Backend.Reply) : Alike s (u.act (.deliver id reply)) (v.act (.deliver id reply)) := by
  simp only [System.act, System.deliver, System.task?]
  cases hslot : v.slots[id]? with
  | none =>
      rw [hm.getElem?_of_none hid hslot]
      exact .none
  | some slot =>
      rw [hm.getElem?_of_some hid hslot]
      simp only [Option.map_some, Option.bind_some, Slot.shift, Task.deliver_shift]
      cases slot.task.deliver reply with
      | none => exact .none
      | some t => exact .some ⟨hm.setTask hid t, rfl⟩

theorem abort (hm : Mirror s u v) {id : Nat} (hid : s.leftOver id = false) :
    Alike s (u.abort id) (v.abort id) := by
  simp only [System.abort, System.task?]
  cases hslot : v.slots[id]? with
  | none =>
      rw [hm.getElem?_of_none hid hslot]
      exact .none
  | some slot =>
      rw [hm.getElem?_of_some hid hslot]
      simp only [Option.map_some, Slot.shift, Task.isPendingCall_shift]
      by_cases hcall : slot.task.isPendingCall = true
      · rw [if_pos hcall, if_pos hcall]
        exact .some ⟨hm.markAborted hid, rfl⟩
      · rw [if_neg hcall, if_neg hcall]
        exact .none

theorem drop (hm : Mirror s u v) {id : Nat} (hid : s.leftOver id = false) :
    Alike s (u.act (.drop id)) (v.act (.drop id)) := by
  simp only [System.act, System.drop]
  cases hslot : v.slots[id]? with
  | none =>
      rw [hm.getElem?_of_none hid hslot]
      exact .none
  | some slot =>
      rw [hm.getElem?_of_some hid hslot]
      simp only [Slot.shift, Task.isSuspended_shift, Task.isTimer_shift, Task.dropped_shift]
      by_cases hdroppable :
          (slot.task.isSuspended && (slot.aborted || !slot.task.isTimer)) = true
      · rw [if_pos hdroppable, if_pos hdroppable]
        exact .some ⟨hm.setTask hid _, rfl⟩
      · rw [if_neg hdroppable, if_neg hdroppable]
        exact .none

/-- Stopping tells the same timer to end. -/
theorem stop (hm : Mirror s u v) : Mirror s u.stop.1 v.stop.1 ∧ u.stop.2 = v.stop.2 := by
  have hepoch : 1 ≤ v.state.stop.epoch := Nat.le_trans hm.begun (Section.epoch_le_apply .stop _)
  have hended := hm.withState v.state.stop (fun _ => nofun) hepoch
  simp only [System.stop, hm.state, State.stop_shift]
  cases htimer : v.state.timer with
  | none =>
      simp only [State.shift, htimer, Option.map_none]
      exact ⟨hended, trivial⟩
  | some t =>
      simp only [State.shift, htimer, Option.map_some]
      exact ⟨hended.markAborted (hm.timer t htimer), rfl⟩

/-- What concerns no task left over does the same to both. -/
theorem act (hm : Mirror s u v) (hheld : 0 < u.handles) {e : Event} (he : s.spares e = true) :
    Alike s (u.act e) (v.act e) := by
  have hid := spares_eq_true_iff.mp he
  have howned : ∀ {a b : System × List Effect}, Mirror s a.1 b.1 → a.2 = b.2 →
      Alike s (u.whenOwned a) (v.whenOwned b) := by
    intro a b hab heffects
    rw [whenOwned_of_held hheld, whenOwned_of_held (hm.handles ▸ hheld)]
    exact .some ⟨hab, heffects⟩
  cases e with
  | start options => exact howned (hm.addTask (.start (.entering options))) rfl
  | poll => exact howned (hm.addTask (.poll .ready)) rfl
  | step id => exact hm.step hheld (hid id rfl)
  | deliver id reply => exact hm.deliver (hid id rfl) reply
  | abort id => exact hm.abort (hid id rfl)
  | drop id => exact hm.drop (hid id rfl)
  | configure options =>
      simp only [System.act, hm.state, State.configure_shift]
      exact howned (hm.withState (v.state.configure options).1 hm.timer hm.begun) rfl
  | stop => exact howned hm.stop.1 hm.stop.2
  | clearHistory =>
      simp only [System.act, hm.state, State.clearHistory_shift]
      exact howned (hm.withState v.state.clearHistory hm.timer hm.begun) rfl
  | tick span =>
      exact .some ⟨{ hm with now := congrArg (· + span.nanos) hm.now }, rfl⟩
  | retain => exact howned { hm with handles := congrArg (· + 1) hm.handles } rfl
  | release =>
      have hheld' : 0 < v.handles := hm.handles ▸ hheld
      simp only [System.act, if_pos hheld, if_pos hheld']
      exact .some ⟨{ hm with handles := congrArg (· - 1) hm.handles }, rfl⟩

/-- What concerns no task left over does the same to both. -/
theorem apply (hm : Mirror s u v) {e : Event} {rest : List Event}
    (hheld : (e :: rest).count .release < u.handles) (he : s.spares e = true) :
    Alike s (u.apply e) (v.apply e) := by
  have hact := hm.act (Nat.zero_lt_of_lt hheld) he
  have hkept : ∀ {r}, u.act e = some r → 0 < r.1.handles :=
    fun hr => Nat.zero_lt_of_lt (held_of_act hheld hr)
  unfold System.apply
  generalize u.act e = a at hact hkept ⊢
  generalize v.act e = b at hact ⊢
  cases hact with
  | none => exact .none
  | @some a b hab =>
      have hheld' : 0 < a.1.handles := hkept rfl
      have hreap : Mirror s a.1.reap b.1.reap := by
        rw [reap_of_held hheld', reap_of_held (hab.1.handles ▸ hheld')]
        exact hab.1
      exact .some ⟨hreap, hab.2⟩

/-! ## Transitions of the work left over -/

/-- A change at a place of work left over that is such work again is none of the other's. -/
theorem of_differsAt (hm : Mirror s u v) {id : Nat} {w : System} (hid : s.leftOver id = true)
    (hd : DiffersAt id u w)
    (hnext : ∀ slot, w.slots[id]? = some slot → slot.Pending s.state.session) : Mirror s w v := by
  refine ⟨hd.hint.trans hm.hint, hd.now.trans hm.now, hd.handles.trans hm.handles,
    hd.state.trans hm.state, hd.length.trans hm.length, ?_, ?_, hm.timer, hm.within, hm.begun⟩
  · intro place hplace
    have hne : place ≠ id := (ne_of_leftOver hid hplace).symm
    rw [hd.others hne]
    exact hm.same hplace
  · intro place slot hplace hslot
    by_cases heq : place = id
    · subst heq
      exact Or.inr (hnext slot hslot)
    · rw [hd.others heq] at hslot
      exact hm.left hplace hslot

/-- What concerns work left over changes neither the state nor any other task, creates no task,
undoes no session, and is nothing to the other poller. -/
theorem left_of_apply (hm : Mirror s u v) (hheld : 0 < u.handles) {e : Event} {id : Nat}
    (he : e.task? = some id) (hid : s.leftOver id = true) {w : System} {effects : List Effect}
    (h : u.apply e = some (w, effects)) :
    Mirror s w v ∧ DiffersAt id u w ∧
      ∀ x ∈ effects, (∃ n, x = .note n ∧ n ≠ .startCancelled) ∨ x = .aborted id := by
  obtain ⟨w, hact, rfl⟩ := apply_eq_some_iff.mp h
  have hlength : id < u.slots.length :=
    hm.length ▸ Nat.lt_of_lt_of_le (lt_length_of_leftOver hid) hm.within
  have hslot : u.slots[id]? = some u.slots[id] := List.getElem?_eq_getElem hlength
  rcases hm.left hid hslot with ⟨hfinished, _⟩ | hpending
  · rw [act_of_finished hslot hfinished he] at hact
    exact absurd hact nofun
  · obtain ⟨hd, ⟨next, hnext, hpending'⟩, heffects⟩ :=
      pending_of_act hslot hpending hm.beyond he hact
    rw [reap_of_held (hd.handles ▸ hheld)]
    refine ⟨hm.of_differsAt hid hd fun slot hslot => ?_, hd, heffects⟩
    rw [hnext] at hslot
    cases hslot
    exact hpending'

/-! ## Runs -/

/-- Every event of a run either does the same to both pollers or is nothing to the other one. -/
theorem run (hm : Mirror s u v) {events : List Event} {t : System} {seen : List Effect}
    (hheld : events.count .release < u.handles) (h : u.run events = some (t, seen)) :
    ∃ t' seen', v.run (events.filter s.spares) = some (t', seen') ∧ Mirror s t t' ∧
      0 < t.handles ∧ seen.filter Effect.isPublic = seen'.filter Effect.isPublic := by
  induction events generalizing u v seen with
  | nil =>
      cases h
      exact ⟨v, [], rfl, hm, hheld, rfl⟩
  | cons e rest ih =>
      obtain ⟨w, first, later, happly, hrest, rfl⟩ := run_cons_eq_some_iff.mp h
      have hheld' := held_of_apply hheld happly
      cases he : s.spares e with
      | true =>
          have hsame := hm.apply hheld he
          rw [happly] at hsame
          obtain ⟨w', hother, hm'⟩ := hsame.of_some
          obtain ⟨t', seen', hrun', hmt, hpos, heffects⟩ := ih hm' hheld' hrest
          refine ⟨t', first ++ seen', ?_, hmt, hpos, ?_⟩
          · rw [List.filter_cons_of_pos he]
            exact run_cons_eq_some_iff.mpr ⟨w', first, seen', hother, hrun', rfl⟩
          · rw [List.filter_append, List.filter_append, heffects]
      | false =>
          obtain ⟨id, htask, hid⟩ := spares_eq_false_iff.mp he
          obtain ⟨hm', _, hsilent⟩ := hm.left_of_apply (Nat.zero_lt_of_lt hheld) htask hid happly
          obtain ⟨t', seen', hrun', hmt, hpos, heffects⟩ := ih hm' hheld' hrest
          refine ⟨t', seen', ?_, hmt, hpos, ?_⟩
          · rw [List.filter_cons_of_neg (by rw [he]; exact Bool.false_ne_true)]
            exact hrun'
          · have hnone : first.filter Effect.isPublic = [] := by
              rw [List.filter_eq_nil_iff]
              intro effect heffect
              rcases hsilent effect heffect with ⟨n, rfl, _⟩ | rfl
              · exact Bool.false_ne_true
              · exact Bool.false_ne_true
            rw [List.filter_append, hnone, List.nil_append, heffects]

/-- Events that concern no work left over can happen to both pollers, or to none. -/
theorem run_of_spares (hm : Mirror s u v) {events : List Event}
    (hheld : events.count .release < u.handles) (hspares : ∀ e ∈ events, s.spares e = true) :
    Alike s (u.run events) (v.run events) := by
  induction events generalizing u v with
  | nil => exact .some ⟨hm, rfl⟩
  | cons e rest ih =>
      have hsame := hm.apply hheld (hspares e List.mem_cons_self)
      rw [run_cons, run_cons]
      cases hu : u.apply e with
      | none =>
          rw [hu] at hsame
          rw [hsame.of_none]
          exact .none
      | some r =>
          obtain ⟨w, first⟩ := r
          rw [hu] at hsame
          obtain ⟨w', hother, hm'⟩ := hsame.of_some
          have hrest := ih hm' (held_of_apply hheld hu) fun e he => hspares e (List.mem_cons_of_mem _ he)
          rw [hother, Option.bind_some, Option.bind_some]
          dsimp only
          generalize w.run rest = a at hrest ⊢
          generalize w'.run rest = b at hrest ⊢
          cases hrest with
          | none => exact .none
          | some hab => exact .some ⟨hab.1, congrArg (first ++ ·) hab.2⟩

end Mirror

end System

end AlarmMonitor.Polling
