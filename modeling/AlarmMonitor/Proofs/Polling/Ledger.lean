import AlarmMonitor.Proofs.Polling.Stretch

/-!
# The ledger of a run

The ledger holds what of a run bears on the running periods: starts that took effect, requests,
timers, and what ended a running period, each with the call of `start` that it is of.  What is
entered and what the poller shows balance, over every stretch of every run.

* `System.ledger`, `System.counted`: the ledger, and how often something stands in it;
* `System.entered_of_act`: what a transition enters, in three cases;
* `System.starts_of_run`: starts that took effect against ends of running periods;
* `System.timers_of_run`: timers against starts that took effect;
* `System.requests_of_run`: requests of starts against starts that took effect.
-/

set_option autoImplicit false

namespace AlarmMonitor.Polling

/-! ## What is entered -/

/-- What of the effects bears on the running periods. -/
def Effect.kinds (effects : List Effect) : List Effect.Kind :=
  (effects.map (·.kind)).filter (· != .other)

theorem Effect.kinds_append (first later : List Effect) :
    Effect.kinds (first ++ later) = Effect.kinds first ++ Effect.kinds later := by
  simp only [Effect.kinds, List.map_append, List.filter_append]

theorem Effect.kinds_of_other {effects : List Effect} (h : ∀ x ∈ effects, x.kind = .other) :
    Effect.kinds effects = [] := by
  unfold Effect.kinds
  rw [List.filter_eq_nil_iff]
  intro k hk
  obtain ⟨x, hx, rfl⟩ := List.mem_map.mp hk
  rw [h x hx]
  decide

theorem Effect.kind_mem_kinds {x : Effect} {effects : List Effect} (hx : x ∈ effects)
    (hkind : x.kind ≠ .other) : x.kind ∈ Effect.kinds effects :=
  List.mem_filter.mpr ⟨List.mem_map_of_mem hx, bne_iff_ne.mpr hkind⟩

/-- Of the notes of a start that takes effect, one is entered. -/
theorem State.kinds_of_start (m : Merged) (endpoint : String) (interval : Duration) :
    Effect.kinds (System.notes (State.mergeNotes m ++ [.started endpoint interval])) =
      [.start] := by
  have hnotes : System.notes (State.mergeNotes m ++ [.started endpoint interval]) =
      System.notes (State.mergeNotes m) ++ [.note (.started endpoint interval)] := List.map_append
  rw [hnotes, Effect.kinds_append,
    Effect.kinds_of_other fun _ hx => State.kind_of_mem_mergeNotes hx]
  rfl

/-- Does the task owe a request: is it a start that took effect and has not begun its request? -/
def Task.owesRequest : Task → Bool
  | .start (.cycling _ .ready) => true
  | _ => false

/-- What a deed enters in the ledger, and what it does to its task where that matters. -/
inductive Turn (s : State) : Task → Piece → List Effect.Kind → Prop where
  /-- A start takes effect, and owes a request. -/
  | start {o : Options} {p : Piece} (hstop : s.running = false) (hrun : p.state.running = true)
      (howes : p.task.owesRequest = true) : Turn s (.start (.entering o)) p [.start]
  /-- A cycle begins its request. -/
  | request {owner : Owner} {p : Piece} (hcontrol : p.state.control = s.control)
      (howes : p.task.owesRequest = false) : Turn s (owner.task .ready) p [.request]
  /-- A start installs a timer. -/
  | timer {session : Nat} {p : Piece} (h : s.awaitsTimer session = true)
      (hrun : p.state.running = s.running) (htimer : p.state.timer.isNone = false)
      (howes : p.task.owesRequest = false) : Turn s (.start (.arming session)) p [.timer]
  /-- The guard of a start ends the running period. -/
  | halt {phase : Start} {p : Piece} (hrun : s.running = true) (hstop : p.state.running = false)
      (howed : (Task.start phase).owesRequest = false) (howes : p.task.owesRequest = false) :
      Turn s (.start phase) p [.halt]
  /-- Nothing is entered; a start that owed a request has found its session over. -/
  | none {t : Task} {p : Piece} (hcontrol : p.state.control = s.control)
      (howes : p.task.owesRequest = false)
      (howed : t.owesRequest = true → ¬ t.Poised s) : Turn s t p []

/-- A piece behind which nothing is owed, of a task that owed nothing. -/
theorem Turn.of_owes {s : State} {t : Task} {p : Piece} (hcontrol : p.state.control = s.control)
    (howes : p.task.owesRequest = false) (howed : t.owesRequest = false) : Turn s t p [] :=
  .none hcontrol howes fun h => absurd (h.symm.trans howed) Bool.true_eq_false.mp

theorem Owner.owesRequest_task {owner : Owner} {cycle : Cycle} (h : cycle ≠ .ready) :
    (owner.task cycle).owesRequest = false := by
  cases owner with
  | start session =>
      cases cycle with
      | ready => exact absurd rfl h
      | waiting | answered | showing | ended => rfl
  | poll | timer => rfl

/-- A cycle of a start that does not begin its request has found its session over. -/
theorem Cycle.Step.not_poised {hint : String} {now place : Nat} {s state : State}
    {cycle next : Cycle} {effects : List Effect} {owner : Owner}
    (h : Cycle.Step hint now place s cycle (state, next, effects))
    (hsilent : ∀ x ∈ effects, x.kind = .other)
    (howed : (owner.task cycle).owesRequest = true) : ¬ (owner.task cycle).Poised s := by
  have hready : cycle = .ready := by
    by_cases hready : cycle = .ready
    · exact hready
    · rw [Owner.owesRequest_task hready] at howed
      exact absurd howed Bool.false_ne_true
  subst hready
  cases owner with
  | poll | timer => exact absurd howed nofun
  | start session =>
      rintro ⟨hrun, _, hfresh⟩
      cases h with
      | notRunning hstop => exact absurd (hrun.symm.trans hstop) Bool.true_eq_false.mp
      | debounced _ hlast => exact absurd (hfresh.symm.trans hlast) nofun
      | request => exact absurd (hsilent _ List.mem_cons_self) nofun

/-- What a deed enters in the ledger. -/
theorem Deed.turn {c : Context} {s : State} {t : Task} {p : Piece} (h : Deed c s t p) :
    Turn s t p (Effect.kinds p.effects) := by
  cases h with
  | refuse | pass | lieDown | firstOver | scheduledOver => exact .of_owes rfl rfl rfl
  | wake | retire => exact .of_owes rfl rfl rfl
  | enter hstop =>
      rw [State.kinds_of_start]
      exact .start hstop rfl rfl
  | cycle ht hstep =>
      subst ht
      rcases hstep.asks_or_silent with ⟨rfl, rfl, _, _, rfl, rfl⟩ | ⟨hother, hstate⟩
      · exact .request rfl (Owner.owesRequest_task nofun)
      · rw [Effect.kinds_of_other hother]
        refine .none ?_ (Owner.owesRequest_task hstep.ne_ready) (hstep.not_poised hother)
        rw [hstate]
        rfl
  | arm hawaits => exact .timer hawaits rfl rfl rfl
  | undo hphase hawaits =>
      have hrun := (State.awaitsTimer_iff.mp hawaits).1
      cases hphase <;> exact .halt hrun rfl rfl rfl
  | release hphase => cases hphase <;> exact .of_owes rfl rfl rfl

namespace System

/-! ## The ledger -/

/-- The call of `start` that takes a step in the event. -/
def caller? (s : System) : Event → Option Nat
  | .step id => if (s.task? id).any (·.isStart) then some id else none
  | _ => none

/-- The ledger of a run. -/
def ledger (s : System) (events : List Event) : List (Option Nat × Effect.Kind) :=
  s.record (fun s e _ effects => (Effect.kinds effects).map fun k => (s.caller? e, k)) events

/-- Everybody, as against the calls of `start` or one of them. -/
def anyone (_ : Option Nat) : Bool := true

/-- How often something of the kind is entered in the ledger of a run, of those who are asked
for. -/
def counted (s : System) (who : Option Nat → Bool) (k : Effect.Kind) (events : List Event) : Nat :=
  (s.ledger events).countP fun x => who x.1 && x.2 == k

section

variable {who : Option Nat → Bool} {k : Effect.Kind}

theorem countP_entries (caller : Option Nat) (ks : List Effect.Kind) :
    (ks.map fun k => (caller, k)).countP (fun x => who x.1 && x.2 == k) =
      if who caller then ks.count k else 0 := by
  rw [List.countP_map]
  cases hwho : who caller with
  | true =>
      rw [if_pos rfl]
      refine List.countP_congr fun x _ => ?_
      simp only [Function.comp, hwho, Bool.true_and]
  | false =>
      rw [if_neg Bool.false_ne_true]
      refine List.countP_eq_zero.mpr fun x _ => ?_
      simp only [Function.comp, hwho, Bool.false_and, Bool.false_eq_true, not_false_eq_true]

theorem counted_cons {s t : System} {e : Event} {effects : List Effect}
    (h : s.apply e = some (t, effects)) (rest : List Event) :
    s.counted who k (e :: rest) =
      (if who (s.caller? e) then (Effect.kinds effects).count k else 0) +
        t.counted who k rest := by
  unfold counted
  rw [ledger, record_cons h, List.countP_append, countP_entries]
  rfl

theorem counted_append {s t : System} {before : List Event} {effects : List Effect}
    (h : s.run before = some (t, effects)) (after : List Event) :
    s.counted who k (before ++ after) = s.counted who k before + t.counted who k after := by
  unfold counted ledger
  rw [record_append h, List.countP_append]

end

/-- What a transition enters of anybody. -/
theorem counted_cons_anyone {s t : System} {e : Event} {effects : List Effect} {k : Effect.Kind}
    (h : s.apply e = some (t, effects)) (rest : List Event) :
    s.counted anyone k (e :: rest) = (Effect.kinds effects).count k + t.counted anyone k rest :=
  counted_cons h rest

/-! ## Requests that are owed -/

/-- How many starts owe their request. -/
def owed (s : System) : Nat := s.slots.countP (·.task.owesRequest)

theorem owed_setTask {s : System} {id : Nat} {slot : Slot} (hslot : s.slots[id]? = some slot)
    (t : Task) :
    (s.setTask id t).owed + slot.task.owesRequest.toNat = s.owed + t.owesRequest.toNat := by
  obtain ⟨hlt, hget⟩ := List.getElem?_eq_some_iff.mp hslot
  have hbefore : s.slots = s.slots.take id ++ slot :: s.slots.drop (id + 1) := by
    rw [← hget, List.getElem_cons_drop hlt, List.take_append_drop]
  have hafter : (s.setTask id t).slots =
      s.slots.take id ++ { slot with task := t } :: s.slots.drop (id + 1) := by
    rw [← hget]
    exact List.modify_eq_take_cons_drop hlt
  unfold owed
  rw [hafter]
  conv => rhs; rw [hbefore]
  simp only [List.countP_append, List.countP_cons]
  cases slot.task.owesRequest <;> cases t.owesRequest <;>
    simp only [Bool.toNat_true, Bool.toNat_false, if_true, Bool.false_eq_true, if_false] <;> omega

theorem owed_setTask_of_not_owes {s : System} {id : Nat} {slot : Slot}
    (hslot : s.slots[id]? = some slot) (hslotOwes : slot.task.owesRequest = false) {t : Task}
    (ht : t.owesRequest = false) : (s.setTask id t).owed = s.owed := by
  have howed := owed_setTask hslot t
  rw [hslotOwes, ht] at howed
  exact howed

theorem owed_addTask {s : System} {t : Task} (ht : t.owesRequest = false) :
    (s.addTask t).owed = s.owed := by
  unfold owed addTask
  rw [List.countP_append, List.countP_singleton, ht, if_neg Bool.false_ne_true, Nat.add_zero]

theorem owed_markAborted (s : System) (id : Nat) : (s.markAborted id).owed = s.owed := by
  unfold owed markAborted
  by_cases hlt : id < s.slots.length
  · rw [List.modify_eq_take_cons_drop hlt]
    conv => rhs; rw [← List.take_append_drop id s.slots, ← List.getElem_cons_drop hlt]
    simp only [List.countP_append, List.countP_cons]
  · rw [List.modify_eq_self (Nat.le_of_not_lt hlt)]

theorem owed_reap (s : System) : s.reap.owed = s.owed := by
  unfold reap
  split
  · rfl
  · split
    · exact owed_markAborted s _
    · rfl

/-- A piece changes what is owed at its place only. -/
theorem owed_leave {s : System} {id : Nat} {slot : Slot} {p : Piece}
    (hslot : s.slots[id]? = some slot) (hp : slot.task.piece (s.context id) s.state = some p) :
    (s.leave id p).owed + slot.task.owesRequest.toNat = s.owed + p.task.owesRequest.toNat := by
  rw [← owed_setTask hslot p.task]
  refine congrArg (· + _) ?_
  rcases Task.spawned_of_piece hp with hnil | ⟨session, htimer⟩
  · unfold owed
    rw [slots_leave_of_spawned_nil hnil]
  · have hslots : (s.leave id p).owed =
        ((s.setTask id p.task).addTask (.timer session .spawned)).owed := by
      unfold owed
      rw [slots_leave_of_spawned htimer]
    rw [hslots, owed_addTask rfl]

theorem owesRequest_of_suspended {t : Task} (h : t.isSuspended = true) :
    t.owesRequest = false := by
  rw [Bool.eq_false_iff]
  intro howes
  unfold Task.owesRequest at howes
  split at howes
  · exact absurd h.symm nofun
  · exact absurd howes Bool.false_ne_true

/-! ## What a transition enters -/

/-- What a transition enters in the ledger, before the poller is possibly given up. -/
inductive Entered (s : System) : Event → System → List Effect → Prop where
  /-- A task takes a step. -/
  | step {id : Nat} {slot : Slot} {p : Piece} (hslot : s.slots[id]? = some slot)
      (hp : slot.task.piece (s.context id) s.state = some p)
      (hturn : Turn s.state slot.task p (Effect.kinds p.effects)) :
      Entered s (.step id) (s.leave id p) p.effects
  /-- The poller is stopped, and if it was running that is seen. -/
  | stop {u : System} {effects : List Effect} (hstate : u.state = s.state.stop)
      (howed : u.owed = s.owed)
      (hkinds : Effect.kinds effects = if s.state.running then [.halt] else []) :
      Entered s .stop u effects
  /-- Nothing is entered, and neither the running period nor what is owed changes. -/
  | quiet {e : Event} {u : System} {effects : List Effect} (he : ∀ id, e ≠ .step id)
      (hcontrol : u.state.control = s.state.control) (howed : u.owed = s.owed)
      (hkinds : Effect.kinds effects = []) : Entered s e u effects

theorem entered_of_act {s u : System} {e : Event} {effects : List Effect}
    (h : s.act e = some (u, effects)) : s.Entered e u effects := by
  cases act_eq_some_iff.mp h with
  | step hslot _ hp => exact .step hslot hp (Task.deed_of_piece hp).turn
  | start | poll => exact .quiet nofun rfl (owed_addTask rfl) rfl
  | @deliver id reply slot next hslot hnext =>
      obtain ⟨owner, session, endpoint, htask, rfl⟩ := Task.answered_of_deliver hnext
      have hbefore : slot.task.owesRequest = false := by
        rw [htask]
        exact Owner.owesRequest_task nofun
      exact .quiet nofun rfl
        (owed_setTask_of_not_owes hslot hbefore (Owner.owesRequest_task nofun)) rfl
  | abort => exact .quiet nofun rfl (owed_markAborted s _) rfl
  | @drop id slot hslot hsuspended =>
      have hdropped : slot.task.dropped.owesRequest = false := by
        rcases slot.task.dropped_cases with hgone | ⟨_, hguard⟩
        · rw [hgone]
          rfl
        · rw [hguard]
          rfl
      exact .quiet nofun rfl
        (owed_setTask_of_not_owes hslot (owesRequest_of_suspended hsuspended) hdropped) rfl
  | @configure options =>
      have hnotes : Effect.kinds (notes (s.state.configure options).2.2) = [] :=
        Effect.kinds_of_other fun _ hx => State.kind_of_mem_mergeNotes hx
      refine .quiet nofun rfl rfl ?_
      rw [Effect.kinds_append, hnotes]
      rfl
  | clearHistory | tick | retain | release => exact .quiet nofun rfl rfl rfl
  | stop =>
      refine .stop (state_stop s) ?_ ?_
      · simp only [stop]
        split
        · exact owed_markAborted _ _
        · rfl
      · simp only [stop]
        split <;> split <;> rfl

/-- What is entered besides the end of a running period, a step of a task enters. -/
theorem step_of_mem {s t : System} {e : Event} {effects : List Effect} {x : Effect}
    (h : s.apply e = some (t, effects)) (hx : x ∈ effects)
    (hkind : x.kind ≠ .other ∧ x.kind ≠ .halt) :
    ∃ id slot p, e = .step id ∧ s.slots[id]? = some slot ∧
      slot.task.piece (s.context id) s.state = some p ∧ t = (s.leave id p).reap ∧
      effects = p.effects := by
  have hentered : x.kind ∈ Effect.kinds effects := Effect.kind_mem_kinds hx hkind.1
  obtain ⟨u, hact, rfl⟩ := apply_eq_some_iff.mp h
  cases entered_of_act hact with
  | step hslot hp => exact ⟨_, _, _, rfl, hslot, hp, rfl, rfl⟩
  | stop _ _ hkinds =>
      rw [hkinds] at hentered
      split at hentered
      · exact absurd (List.mem_singleton.mp hentered) hkind.2
      · exact absurd hentered List.not_mem_nil
  | quiet _ _ _ hkinds =>
      rw [hkinds] at hentered
      exact absurd hentered List.not_mem_nil

/-! ## The balances -/

/-- In a transition: a start that takes effect begins the running period, and what ends it is
seen. -/
theorem starts_of_apply {s t : System} {e : Event} {effects : List Effect}
    (h : s.apply e = some (t, effects)) :
    (Effect.kinds effects).count .start + s.state.running.toNat =
      (Effect.kinds effects).count .halt + t.state.running.toNat := by
  obtain ⟨u, hact, rfl⟩ := apply_eq_some_iff.mp h
  rw [running_reap]
  cases entered_of_act hact with
  | @step id slot p _ _ hturn =>
      have hleave : (s.leave id p).state = p.state := rfl
      rw [hleave]
      generalize slot.task = task at hturn
      generalize Effect.kinds p.effects = ks at hturn ⊢
      cases hturn with
      | start hstop hrun => rw [hstop, hrun]; rfl
      | halt hrun hstop => rw [hrun, hstop]; rfl
      | timer _ hrun => rw [hrun]; rfl
      | request hcontrol | none hcontrol => rw [(State.control_eq_iff.mp hcontrol).1]; rfl
  | stop hstate _ hkinds =>
      rw [hkinds, hstate]
      cases s.state.running <;> rfl
  | quiet _ hcontrol _ hkinds =>
      rw [hkinds, (State.control_eq_iff.mp hcontrol).1]
      rfl

/-- Over a run: as many starts take effect as running periods end, and one more if the poller runs
in the end and did not in the beginning. -/
theorem starts_of_run {s t : System} {events : List Event} {effects : List Effect}
    (h : s.run events = some (t, effects)) :
    s.counted anyone .start events + s.state.running.toNat =
      s.counted anyone .halt events + t.state.running.toNat := by
  induction events generalizing s effects with
  | nil =>
      cases h
      rfl
  | cons e rest ih =>
      obtain ⟨u, first, later, happly, hrun, _⟩ := run_cons_eq_some_iff.mp h
      have hfirst := starts_of_apply happly
      have hlater := ih hrun
      rw [counted_cons_anyone happly, counted_cons_anyone happly]
      omega

/-- Does the poller run without a timer, and does somebody hold it? -/
def awaits (s : System) : Nat := (s.isAlive && s.state.running && s.state.timer.isNone).toNat

theorem awaits_le_one (s : System) : s.awaits ≤ 1 := Bool.toNat_le _

/-- In a transition: a timer is installed where a start has taken effect and none has been since. -/
theorem timers_of_apply {s t : System} {e : Event} {effects : List Effect}
    (h : s.apply e = some (t, effects)) :
    (Effect.kinds effects).count .timer + t.awaits ≤
      (Effect.kinds effects).count .start + s.awaits := by
  have halive := isAlive_of_apply h
  obtain ⟨u, hact, rfl⟩ := apply_eq_some_iff.mp h
  -- a poller that is given up is not held again, and awaits nothing
  have hreap : u.reap.awaits = (u.isAlive && u.state.running && u.state.timer.isNone).toNat := by
    unfold awaits
    rw [isAlive_reap]
    rcases Bool.eq_false_or_eq_true u.isAlive with hheld | hdead
    · rw [reap_of_alive hheld]
    · rw [hdead, Bool.false_and, Bool.false_and, Bool.false_and, Bool.false_and]
  have hkeep : u.state.running = s.state.running → u.state.timer = s.state.timer →
      u.reap.awaits ≤ s.awaits := by
    intro hrun htimer
    rw [hreap]
    unfold awaits
    rw [hrun, htimer]
    rw [isAlive_reap] at halive
    cases hheld : u.isAlive with
    | true => exact Nat.le_of_eq (by rw [halive hheld])
    | false => exact Nat.zero_le _
  cases entered_of_act hact with
  | @step id slot p hslot _ hturn =>
      have hleave : (s.leave id p).state = p.state := rfl
      rw [hleave] at hkeep hreap
      generalize htask : slot.task = task at hturn
      generalize Effect.kinds p.effects = ks at hturn ⊢
      cases hturn with
      | start =>
          have hone := awaits_le_one (s.leave id p).reap
          exact Nat.le_trans (Nat.le_of_eq (Nat.zero_add _))
            (Nat.le_trans hone (Nat.le_add_right _ _))
      | halt _ hstop =>
          rw [hreap, hstop, Bool.and_false, Bool.false_and]
          exact Nat.zero_le _
      | timer hawaits _ htimer =>
          obtain ⟨hrun, _, hnone⟩ := State.awaitsTimer_iff.mp hawaits
          have hheld : s.isAlive = true := isAlive_of_holdsPoller hslot (by rw [htask]; rfl)
          have hbefore : s.awaits = 1 := by
            unfold awaits
            rw [hheld, hrun, hnone]
            rfl
          rw [hreap, htimer, Bool.and_false, hbefore]
          exact Nat.le_refl _
      | request hcontrol | none hcontrol =>
          obtain ⟨hrun, _, htimer⟩ := State.control_eq_iff.mp hcontrol
          exact Nat.add_le_add_left (hkeep hrun htimer) 0
  | stop hstate _ hkinds =>
      rw [hreap, hstate, hkinds]
      have hstop : s.state.stop.running = false := rfl
      rw [hstop, Bool.and_false, Bool.false_and]
      cases s.state.running <;> exact Nat.zero_le _
  | quiet _ hcontrol _ hkinds =>
      obtain ⟨hrun, _, htimer⟩ := State.control_eq_iff.mp hcontrol
      rw [hkinds]
      exact Nat.add_le_add_left (hkeep hrun htimer) 0

/-- Over a run: no more timers are installed than starts take effect, and one more if the poller
ran without its timer in the beginning. -/
theorem timers_of_run {s t : System} {events : List Event} {effects : List Effect}
    (h : s.run events = some (t, effects)) :
    s.counted anyone .timer events + t.awaits ≤ s.counted anyone .start events + s.awaits := by
  induction events generalizing s effects with
  | nil =>
      cases h
      exact Nat.le_refl _
  | cons e rest ih =>
      obtain ⟨u, first, later, happly, hrun, _⟩ := run_cons_eq_some_iff.mp h
      have hfirst := timers_of_apply happly
      have hlater := ih hrun
      rw [counted_cons_anyone happly, counted_cons_anyone happly]
      omega

theorem caller?_step {s : System} {id : Nat} {slot : Slot} (hslot : s.slots[id]? = some slot) :
    s.caller? (.step id) = if slot.task.isStart then some id else none := by
  have htask : s.task? id = some slot.task := task?_eq_some_iff.mpr ⟨slot, hslot, rfl⟩
  simp only [caller?, htask, Option.any_some]

/-- What a call enters, it enters in its own steps. -/
theorem caller?_ne {s : System} {e : Event} {call : Nat} (h : e ≠ .step call) :
    s.caller? e ≠ some call := by
  intro hcaller
  cases e with
  | step id =>
      simp only [caller?] at hcaller
      split at hcaller
      · exact h (congrArg Event.step (Option.some.inj hcaller))
      · exact absurd hcaller nofun
  | start | poll | deliver | abort | drop | configure | stop | clearHistory | tick | retain
  | release => exact absurd hcaller nofun

/-- In a transition of an unbroken run: what a start owes is begun before anything else happens to
it. -/
theorem requests_of_apply {s t : System} {e : Event} {effects : List Effect} (hs : s.Poised)
    (h : s.apply e = some (t, effects)) :
    (if (s.caller? e).isSome then (Effect.kinds effects).count .request else 0) + t.owed =
      (Effect.kinds effects).count .start + s.owed := by
  obtain ⟨u, hact, rfl⟩ := apply_eq_some_iff.mp h
  rw [owed_reap]
  cases entered_of_act hact with
  | @step id slot p hslot hp hturn =>
      have howed := owed_leave hslot hp
      have hpoised : slot.task.Poised s.state :=
        hs id slot.task (task?_eq_some_iff.mpr ⟨slot, hslot, rfl⟩)
      rw [caller?_step hslot]
      generalize slot.task = task at hturn howed hpoised
      generalize Effect.kinds p.effects = ks at hturn ⊢
      cases hturn with
      | start _ _ howes =>
          rw [howes] at howed
          have hsum : (s.leave id p).owed + 0 = s.owed + 1 := howed
          have hcounts : 0 + (s.leave id p).owed = 1 + s.owed := by omega
          exact hcounts
      | @request owner _ _ howes =>
          rw [howes] at howed
          cases owner with
          | start session =>
              have hsum : (s.leave id p).owed + 1 = s.owed + 0 := howed
              have hcounts : 1 + (s.leave id p).owed = 0 + s.owed := by omega
              exact hcounts
          | poll | timer => exact congrArg (0 + ·) howed
      | timer _ _ _ howes =>
          rw [howes] at howed
          exact congrArg (0 + ·) howed
      | halt _ _ hbefore howes =>
          rw [hbefore, howes] at howed
          exact congrArg (0 + ·) howed
      | none _ howes hbroken =>
          have hbefore : task.owesRequest = false := by
            rw [Bool.eq_false_iff]
            exact fun howed => hbroken howed hpoised
          rw [hbefore, howes] at howed
          rw [List.count_nil, ite_self]
          exact congrArg (0 + ·) howed
  | stop _ howed hkinds =>
      rw [hkinds, howed]
      cases s.state.running <;> rfl
  | quiet _ _ howed hkinds =>
      rw [hkinds, howed, List.count_nil, List.count_nil, ite_self]

/-- A start of a stopped poller owes nothing: what is owed, is owed to a session that runs. -/
theorem Poised.owed_of_stopped {s : System} (hs : s.Poised) (hstop : s.state.running = false) :
    s.owed = 0 := by
  refine List.countP_eq_zero.mpr fun slot hslot howes => ?_
  obtain ⟨place, hplace⟩ := List.mem_iff_getElem?.mp hslot
  have hpoised := hs place slot.task (task?_eq_some_iff.mpr ⟨slot, hplace, rfl⟩)
  unfold Task.owesRequest at howes
  split at howes
  · rename_i session htask
    rw [htask] at hpoised
    exact absurd (hpoised.1.symm.trans hstop) Bool.true_eq_false.mp
  · exact absurd howes Bool.false_ne_true

/-- Over an unbroken run: every start that takes effect begins a request, at once. -/
theorem requests_of_run {s t : System} {events : List Event} {effects : List Effect}
    (hreach : Reachable s) (hs : s.Poised) (hheeds : s.heeds unbroken events = true)
    (h : s.run events = some (t, effects)) :
    s.counted Option.isSome .request events + t.owed =
      s.counted anyone .start events + s.owed := by
  induction events generalizing s effects with
  | nil =>
      cases h
      rfl
  | cons e rest ih =>
      obtain ⟨u, first, later, happly, hrun, _⟩ := run_cons_eq_some_iff.mp h
      obtain ⟨hrule, hrest⟩ := (heeds_cons happly).mp hheeds
      have hfirst := requests_of_apply hs happly
      have hlater := ih (hreach.apply happly) (hs.apply hreach hrule happly) hrest hrun
      rw [counted_cons happly, counted_cons_anyone happly]
      omega

end System

end AlarmMonitor.Polling
