import AlarmMonitor.Proofs.Polling.Mirror

/-!
# A poller that has stopped is as good as new

`System.renewed s` is the poller that a new one becomes when it is given the configuration of `s`,
with as many handles, at the same time, and when the calls that `s` has not begun are made to it;
`System.setup s` are the events that bring a new poller there.

* `System.run_setup`: a new poller becomes the renewed one;
* `System.mirror_renewed`: a stopped poller and its renewed one agree;
* `System.new_after_stop`: whatever comes after a stop, callers, the backend and the sink meet the
  renewed poller, and the work left over does nothing.
-/

set_option autoImplicit false

namespace AlarmMonitor.Polling

/-- Options that name every field replace the configuration, unless the interval is too short. -/
theorem Config.merge_all (c : Config) {d : Config} (h : minInterval ≤ d.interval) :
    (c.merge ⟨some d.endpoint, some d.interval⟩).config = d := by
  have hendpoint : (c.mergeEndpoint (some d.endpoint)).1 = { c with endpoint := d.endpoint } := by
    unfold mergeEndpoint
    by_cases heq : d.endpoint = c.endpoint
    · simp only [heq, if_true]
    · simp only [if_neg heq]
  have hfloor : ¬ d.interval < minInterval := Nat.not_lt.mpr h
  simp only [merge, hendpoint, mergeInterval, if_neg hfloor]
  by_cases heq : d.interval = c.interval
  · rw [if_pos heq, ← heq]
  · rw [if_neg heq]

namespace Slot

/-- What a renewed poller has at the place of a task: a call that has not begun is kept, and
anything else is gone. -/
def renewed (slot : Slot) : Slot := if slot.task.isUnbegun then slot else ⟨.gone, false⟩

/-- The events that put the renewed task at the next place `id`. -/
def calls (id : Nat) (slot : Slot) : List Event :=
  match slot.task with
  | .start (.entering options) => .start options :: if slot.aborted then [.abort id] else []
  | .poll .ready => .poll :: if slot.aborted then [.abort id] else []
  | _ => [.poll, .drop id]

/-- A call that has not begun knows of no session. -/
theorem shift_of_isUnbegun {slot : Slot} (h : slot.task.isUnbegun = true) (k : Nat) :
    slot.shift k = slot := by
  obtain ⟨t, aborted⟩ := slot
  cases t with
  | start phase =>
      cases phase with
      | entering => rfl
      | cycling | arming | leaving | cancelled | returned => exact absurd h nofun
  | poll cycle =>
      cases cycle with
      | ready => rfl
      | waiting | answered | showing | ended => exact absurd h nofun
  | timer | gone => exact absurd h nofun

end Slot

namespace System

/-- The poller as a new one with the same configuration would be. -/
def renewed (s : System) : System :=
  { s with state := { State.initial with config := s.state.config }
           slots := s.slots.map Slot.renewed }

/-- The events that put renewed tasks at the places from `id` on. -/
def callsFrom : Nat → List Slot → List Event
  | _, [] => []
  | id, slot :: rest => slot.calls id ++ callsFrom (id + 1) rest

/-- The events that bring a new poller to where the renewed one is. -/
def setup (s : System) : List Event :=
  .tick ⟨s.now⟩ :: .configure ⟨some s.state.config.endpoint, some s.state.config.interval⟩ ::
    (List.replicate s.handles .retain ++ (callsFrom 0 s.slots ++ [.release]))

/-! ## A new poller becomes the renewed one -/

theorem apply_of_held {s u : System} {e : Event} {effects : List Effect}
    (h : s.act e = some (u, effects)) (hheld : 0 < u.handles) : s.apply e = some (u, effects) :=
  apply_eq_some_iff.mpr ⟨u, h, (reap_of_held hheld).symm⟩

theorem run_singleton {s u : System} {e : Event} {effects : List Effect}
    (h : s.apply e = some (u, effects)) : s.run [e] = some (u, effects) :=
  run_cons_eq_some_iff.mpr ⟨u, effects, [], h, rfl, (List.append_nil _).symm⟩

theorem modify_length_append {α : Type} (f : α → α) (a : α) (l : List α) :
    (l ++ [a]).modify l.length f = l ++ [f a] := by
  induction l with
  | nil => rfl
  | cons x l ih => exact congrArg (x :: ·) ih

/-- The place of a task that was just added. -/
theorem getElem?_addTask_length (s : System) (t : Task) :
    (s.addTask t).slots[s.slots.length]? = some ⟨t, false⟩ :=
  getElem?_addTask_eq_some_iff.mpr (Or.inr ⟨rfl, rfl⟩)

theorem act_start_of_held {s : System} (hheld : 0 < s.handles) (options : Options) :
    s.act (.start options) = some (s.addTask (.start (.entering options)), []) :=
  whenOwned_of_held hheld _

theorem act_poll_of_held {s : System} (hheld : 0 < s.handles) :
    s.act .poll = some (s.addTask (.poll .ready), []) :=
  whenOwned_of_held hheld _

/-- A call is made and possibly told to end. -/
theorem run_call {s : System} {call : Event} {t : Task} (hheld : 0 < s.handles)
    (hcall : s.act call = some (s.addTask t, [])) (hpending : t.isPendingCall = true)
    (aborted : Bool) :
    ∃ effects, s.run (call :: if aborted then [.abort s.slots.length] else []) =
      some ({ s with slots := s.slots ++ [⟨t, aborted⟩] }, effects) := by
  have hfirst := apply_of_held hcall hheld
  cases aborted with
  | false => exact ⟨[], run_singleton hfirst⟩
  | true =>
      have habort : (s.addTask t).act (.abort s.slots.length) =
          some ((s.addTask t).markAborted s.slots.length, [.aborted s.slots.length]) :=
        abort_eq_some_iff.mpr ⟨_, s.getElem?_addTask_length t, hpending, rfl, rfl⟩
      have hslots : (s.addTask t).markAborted s.slots.length =
          { s with slots := s.slots ++ [⟨t, true⟩] } := by
        simp only [markAborted, addTask, modify_length_append]
      rw [hslots] at habort
      exact ⟨_, run_cons_eq_some_iff.mpr
        ⟨_, _, _, hfirst, run_singleton (apply_of_held habort hheld), rfl⟩⟩

/-- A call is made and dropped before it begins. -/
theorem run_dropped_call {s : System} (hheld : 0 < s.handles) :
    ∃ effects, s.run [.poll, .drop s.slots.length] =
      some ({ s with slots := s.slots ++ [⟨.gone, false⟩] }, effects) := by
  have hdropped : (s.addTask (.poll .ready)).drop s.slots.length =
      some ((s.addTask (.poll .ready)).setTask s.slots.length .gone) :=
    drop_eq_some_iff.mpr ⟨_, s.getElem?_addTask_length _, rfl, Or.inr rfl, rfl⟩
  have hslots : (s.addTask (.poll .ready)).setTask s.slots.length .gone =
      { s with slots := s.slots ++ [⟨.gone, false⟩] } := by
    simp only [setTask, addTask, modify_length_append]
  rw [hslots] at hdropped
  have hdrop : (s.addTask (.poll .ready)).act (.drop s.slots.length) =
      some ({ s with slots := s.slots ++ [⟨.gone, false⟩] }, []) :=
    congrArg (Option.map fun s => (s, [])) hdropped
  exact ⟨_, run_cons_eq_some_iff.mpr ⟨_, _, _, apply_of_held (act_poll_of_held hheld) hheld,
    run_singleton (apply_of_held hdrop hheld), rfl⟩⟩

theorem run_calls {s : System} (hheld : 0 < s.handles) (slot : Slot) :
    ∃ effects, s.run (slot.calls s.slots.length) =
      some ({ s with slots := s.slots ++ [slot.renewed] }, effects) := by
  obtain ⟨t, aborted⟩ := slot
  cases t with
  | start phase =>
      cases phase with
      | entering options => exact run_call hheld (act_start_of_held hheld options) rfl aborted
      | cycling | arming | leaving | cancelled | returned => exact run_dropped_call hheld
  | poll cycle =>
      cases cycle with
      | ready => exact run_call hheld (act_poll_of_held hheld) rfl aborted
      | waiting | answered | showing | ended => exact run_dropped_call hheld
  | timer | gone => exact run_dropped_call hheld

theorem run_callsFrom {s : System} (hheld : 0 < s.handles) (slots : List Slot) :
    ∃ effects, s.run (callsFrom s.slots.length slots) =
      some ({ s with slots := s.slots ++ slots.map Slot.renewed }, effects) := by
  induction slots generalizing s with
  | nil => exact ⟨[], by simp only [List.map_nil, List.append_nil]; rfl⟩
  | cons slot rest ih =>
      obtain ⟨first, hfirst⟩ := run_calls hheld slot
      obtain ⟨later, hlater⟩ := @ih { s with slots := s.slots ++ [slot.renewed] } hheld
      simp only [List.length_append, List.length_singleton, List.append_assoc,
        List.singleton_append] at hlater
      exact ⟨first ++ later, run_append_eq_some_iff.mpr ⟨_, first, later, hfirst, hlater, rfl⟩⟩

theorem run_retain {s : System} (hheld : 0 < s.handles) (n : Nat) :
    s.run (List.replicate n .retain) = some ({ s with handles := s.handles + n }, []) := by
  induction n generalizing s with
  | zero => rfl
  | succ n ih =>
      have hfirst : s.apply .retain = some ({ s with handles := s.handles + 1 }, []) :=
        apply_of_held (whenOwned_of_held hheld _) (Nat.succ_pos _)
      have hrest := @ih { s with handles := s.handles + 1 } (Nat.succ_pos _)
      simp only [Nat.add_assoc, Nat.add_comm 1 n] at hrest
      exact run_cons_eq_some_iff.mpr ⟨_, _, _, hfirst, hrest, rfl⟩

/-- Every configuration that is possible can be chosen. -/
theorem apply_configure_all {s : System} (hheld : 0 < s.handles) {d : Config}
    (h : minInterval ≤ d.interval) :
    ∃ told, s.apply (.configure ⟨some d.endpoint, some d.interval⟩) =
      some ({ s with state := { s.state with config := d } }, told) := by
  have hstate : (s.state.configure ⟨some d.endpoint, some d.interval⟩).1 =
      { s.state with config := d } := by
    simp only [State.configure, Config.merge_all s.state.config h]
  rw [← hstate]
  exact ⟨_, apply_of_held (whenOwned_of_held hheld _) hheld⟩

theorem reap_of_no_timer {s : System} (h : s.state.timer = none) : s.reap = s := by
  unfold reap
  rw [h]
  split <;> rfl

/-- A handle too many is given back. -/
theorem run_release {s : System} {n : Nat} (htimer : s.state.timer = none)
    (hhandles : s.handles = 1 + n) : s.run [.release] = some ({ s with handles := n }, []) := by
  have hpos : 0 < s.handles := by omega
  have hback : s.handles - 1 = n := by omega
  have hact : s.act .release = some ({ s with handles := n }, []) := by
    simp only [act, if_pos hpos, hback]
  have hkept : System.reap { s with handles := n } = { s with handles := n } :=
    reap_of_no_timer htimer
  exact run_singleton (apply_eq_some_iff.mpr ⟨_, hact, hkept.symm⟩)

/-- A new poller becomes the renewed one. -/
theorem run_setup {s : System} (hsound : s.state.Sound) :
    ∃ effects, (new s.hint).run s.setup = some (s.renewed, effects) := by
  have hclock : (new s.hint).apply (.tick ⟨s.now⟩) =
      some ({ new s.hint with now := s.now }, []) := by
    refine apply_of_held ?_ Nat.one_pos
    simp only [act, new, Nat.zero_add]
  obtain ⟨told, hconfigure⟩ :=
    @apply_configure_all { new s.hint with now := s.now } Nat.one_pos _ hsound.interval
  have hretain := @run_retain ⟨s.hint, s.now, 1, s.renewed.state, []⟩ Nat.one_pos s.handles
  obtain ⟨made, hcalls⟩ := @run_callsFrom ⟨s.hint, s.now, 1 + s.handles, s.renewed.state, []⟩
    (Nat.succ_le_iff.mp (Nat.le_add_right 1 _)) s.slots
  have hrelease := @run_release
    ⟨s.hint, s.now, 1 + s.handles, s.renewed.state, s.slots.map Slot.renewed⟩ s.handles rfl rfl
  have hlast := run_append_eq_some_iff.mpr ⟨_, _, _, hcalls, hrelease, rfl⟩
  have hplaces := run_append_eq_some_iff.mpr ⟨_, _, _, hretain, hlast, rfl⟩
  have hready := run_cons_eq_some_iff.mpr ⟨_, _, _, hconfigure, hplaces, rfl⟩
  exact ⟨_, run_cons_eq_some_iff.mpr ⟨_, _, _, hclock, hready, rfl⟩⟩

/-- No task takes a step on the way there. -/
theorem step_not_mem_setup (s : System) (place : Nat) : .step place ∉ s.setup := by
  have htold : ∀ (aborted : Bool) (id : Nat),
      .step place ∉ if aborted then [Event.abort id] else [] := by
    intro aborted id
    cases aborted <;> simp
  have hslot : ∀ (id : Nat) (slot : Slot), .step place ∉ slot.calls id := by
    intro id slot
    unfold Slot.calls
    split
    · exact List.not_mem_cons_of_ne_of_not_mem nofun (htold _ id)
    · exact List.not_mem_cons_of_ne_of_not_mem nofun (htold _ id)
    · simp
  have hcalls : ∀ (slots : List Slot) (id : Nat), .step place ∉ callsFrom id slots := by
    intro slots
    induction slots with
    | nil => exact fun _ => List.not_mem_nil
    | cons slot rest ih =>
        intro id hmem
        rcases List.mem_append.mp hmem with h | h
        · exact hslot id slot h
        · exact ih (id + 1) h
  simp [setup, hcalls]

/-! ## A stopped poller and its renewed one -/

/-- A poller that has stopped, and no task of which is in the middle of a stretch, agrees with the
renewed one. -/
theorem mirror_renewed {s : System} (hreach : Reachable s) (hstop : s.state.running = false)
    (hquiet : s.Quiet) : Mirror s s s.renewed := by
  obtain ⟨hseen, hlast, htimer⟩ := (sound_of_reachable hreach).stopped hstop
  refine ⟨rfl, rfl, rfl, ?_, ?_, ?_, ?_, fun _ => nofun, ?_, Nat.le_refl 1⟩
  · have hstate : s.renewed.state.shift s.state.session =
        ⟨s.state.config, false, 0 + s.state.session, .empty, none, none⟩ := rfl
    rw [hstate, Nat.zero_add, ← hstop, ← hseen, ← hlast, ← htimer]
  · exact (List.length_map _).symm
  · intro place hplace
    have hrenewed : s.renewed.slots[place]? = (s.slots[place]?).map Slot.renewed :=
      List.getElem?_map
    rw [hrenewed]
    cases hslot : s.slots[place]? with
    | none => rfl
    | some slot =>
        have hbegun : slot.task.isUnbegun = true := by
          have htask : s.task? place = some slot.task := task?_eq_some_iff.mpr ⟨slot, hslot, rfl⟩
          simpa only [leftOver, htask, Bool.not_eq_false'] using hplace
        simp only [Option.map_some, Slot.renewed, if_pos hbegun, Slot.shift_of_isUnbegun hbegun]
  · intro place slot hplace hslot
    have htask : s.task? place = some slot.task := task?_eq_some_iff.mpr ⟨slot, hslot, rfl⟩
    have hbegun : slot.task.isUnbegun = false := by
      simpa only [leftOver, htask, Bool.not_eq_true'] using hplace
    exact (pending_of_stopped hreach hstop hquiet hslot hbegun).imp (fun h => ⟨h, htask⟩) id
  · exact Nat.le_of_eq (List.length_map _).symm

/-- The outcome of a call for one cycle that is over. -/
def outcome? (s : System) (id : Nat) : Option Outcome :=
  match s.task? id with
  | some (.poll (.ended outcome)) => some outcome
  | _ => none

/-- Callers meet the same in two pollers that were once the stopped poller `s` and its renewed
one. -/
structure Meets (s t t' : System) : Prop where
  running : t.state.running = t'.state.running
  config : t.state.config = t'.state.config
  seen : t.state.seen = t'.state.seen
  outcome : ∀ id, s.leftOver id = false → t.outcome? id = t'.outcome? id
  /-- Calls and timers stand at the same point, under other numbers of sessions. -/
  task : ∀ id, s.leftOver id = false → t.task? id = (t'.task? id).map (·.shift s.state.session)

theorem Mirror.meets {s u v : System} (hm : Mirror s u v) : Meets s u v := by
  have htask : ∀ id, s.leftOver id = false →
      u.task? id = (v.task? id).map (·.shift s.state.session) := by
    intro id hid
    unfold task?
    rw [hm.same hid, Option.map_map, Option.map_map]
    rfl
  refine ⟨by rw [hm.state]; rfl, by rw [hm.state]; rfl, by rw [hm.state]; rfl, ?_, htask⟩
  intro id hid
  unfold outcome?
  rw [htask id hid]
  cases v.task? id with
  | none => rfl
  | some t =>
      cases t with
      | poll cycle => cases cycle <;> rfl
      | start | timer | gone => rfl

/-- What the work left over comes to behind any run. -/
theorem Mirror.settled {s u v : System} (hm : Mirror s u v) {id : Nat}
    (hid : s.leftOver id = true) {outcome : Outcome}
    (hended : u.cycle? id = some (.ended outcome)) (hnew : s.cycle? id ≠ some (.ended outcome)) :
    outcome = .discarded ∨ outcome = .fetchFailed := by
  obtain ⟨t, htask, hcycle⟩ := Option.bind_eq_some_iff.mp hended
  obtain ⟨slot, hslot, rfl⟩ := task?_eq_some_iff.mp htask
  rcases hm.left hid hslot with ⟨_, hsame⟩ | hpending
  · have hbefore : s.cycle? id = some (.ended outcome) :=
      Option.bind_eq_some_iff.mpr ⟨slot.task, hsame, hcycle⟩
    exact absurd hbefore hnew
  · exact hpending.outcome hcycle

/-- A timer left over takes no step: it was told to end, and is suspended. -/
theorem Mirror.rests {s u v : System} (hm : Mirror s u v) {id : Nat} (hid : s.leftOver id = true)
    {session : Nat} {phase : Timer} (htask : u.task? id = some (.timer session phase)) :
    u.apply (.step id) = none := by
  obtain ⟨slot, hslot, htimer⟩ := task?_eq_some_iff.mp htask
  have hact : u.act (.step id) = none := by
    rcases hm.left hid hslot with ⟨hfinished, _⟩ | hpending
    · exact act_of_finished hslot hfinished rfl
    · rw [Option.eq_none_iff_forall_not_mem]
      rintro ⟨w, effects⟩ h
      obtain ⟨other, p, hother, hfree, _⟩ := step_eq_some_iff.mp h
      cases Option.some.inj (hslot.symm.trans hother)
      cases hpending with
      | timer hsuspended =>
          rw [hsuspended] at hfree
          exact absurd hfree.symm Bool.false_ne_true
      | start | poll | arming | leaving | cancelled | returned | gone => cases htimer
  unfold System.apply
  rw [hact]
  rfl

/-- A poller has stopped, and no task is in the middle of a stretch between two waits.  A new
poller can be brought to the renewed one without any step.  Whatever comes next, as long as a
handle is held: leaving out the events of the work left over, the same run is possible for the
renewed poller, with the same requests, texts and answers to callers, and callers meet the same
behind it; and what is possible for the renewed poller is possible for the old one.  A cycle left
over ends discarded or failed, if it ends, a timer left over takes no step, and no event of the
work left over changes the state or any other task, creates a task, undoes a session or is seen
outside the log. -/
theorem new_after_stop {s : System} (hreach : Reachable s) (hstop : s.state.running = false)
    (hquiet : s.Quiet) :
    ((∃ effects, (new s.hint).run s.setup = some (s.renewed, effects)) ∧
      ∀ place, .step place ∉ s.setup) ∧
    ∀ events : List Event, events.count .release < s.handles →
      (∀ t seen, s.run events = some (t, seen) →
        (∃ t' seen', s.renewed.run (events.filter s.spares) = some (t', seen') ∧
          Meets s t t' ∧ seen.filter Effect.isPublic = seen'.filter Effect.isPublic) ∧
        ∀ id, s.leftOver id = true →
          (∀ outcome, t.cycle? id = some (.ended outcome) →
            s.cycle? id ≠ some (.ended outcome) →
              outcome = .discarded ∨ outcome = .fetchFailed) ∧
          (∀ session phase, t.task? id = some (.timer session phase) →
            t.apply (.step id) = none) ∧
          ∀ e u effects, e.task? = some id → t.apply e = some (u, effects) →
            DiffersAt id t u ∧
              ∀ x ∈ effects, (∃ n, x = .note n ∧ n ≠ .startCancelled) ∨ x = .aborted id) ∧
      (∀ t' seen', s.renewed.run (events.filter s.spares) = some (t', seen') →
        ∃ t, s.run (events.filter s.spares) = some (t, seen') ∧ Meets s t t') := by
  have hm := mirror_renewed hreach hstop hquiet
  refine ⟨⟨run_setup (sound_of_reachable hreach), step_not_mem_setup s⟩, ?_⟩
  intro events hheld
  constructor
  · intro t seen hrun
    obtain ⟨t', seen', hrun', hmt, hpos, heffects⟩ := hm.run hheld hrun
    refine ⟨⟨t', seen', hrun', hmt.meets, heffects⟩, ?_⟩
    intro id hid
    refine ⟨fun outcome hended hnew => hmt.settled hid hended hnew,
      fun session phase htask => hmt.rests hid htask, ?_⟩
    intro e u effects he happly
    exact (hmt.left_of_apply hpos he hid happly).2
  · intro t' seen' hrun'
    have hfewer : (events.filter s.spares).count .release < s.handles :=
      Nat.lt_of_le_of_lt (List.filter_sublist.count_le _) hheld
    have hsame := hm.run_of_spares hfewer fun e he => (List.mem_filter.mp he).2
    rw [hrun'] at hsame
    obtain ⟨t, hrun, hmt⟩ := hsame.to_some
    exact ⟨t, hrun, hmt.meets⟩

/-- A poller is stopped while the first request of a start is on its way, and is started again; the
reply to the old request comes in between. -/
theorem new_after_stop_within_request :
    ∃ s told t seen t' seen',
      (new "").run [.start .none, .step 0, .step 0, .stop] = some (s, told) ∧
      s.run [.start .none, .step 1, .deliver 0 (.body "[1]"), .step 0, .step 1] = some (t, seen) ∧
      s.renewed.run [.start .none, .step 1, .step 1] = some (t', seen') ∧
      Meets s t t' ∧ seen.filter Effect.isPublic = seen'.filter Effect.isPublic ∧
      .request 1 "/api/event_result" ∈ seen ∧ t.cycle? 0 = some (.ended .discarded) := by
  have hreach : Reachable _ := ⟨"", [.start .none, .step 0, .step 0, .stop], _, rfl⟩
  have hall := (new_after_stop hreach rfl (by decide)).2
    [.start .none, .step 1, .deliver 0 (.body "[1]"), .step 0, .step 1] (by decide)
  obtain ⟨⟨t', seen', hrun', hmeets, heffects⟩, _⟩ := hall.1 _ _ rfl
  exact ⟨_, _, _, _, t', seen', rfl, rfl, hrun', hmeets, heffects, by decide, rfl⟩

end System

end AlarmMonitor.Polling
