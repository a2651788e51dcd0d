import AlarmMonitor.Proofs.Install.Subscriptions
import AlarmMonitor.Proofs.Watch.Course

/-!
# The last known status

The status is what was last written: from outside, or by a check, at boot or later, whose reply has
a recognised signal.  Every other reply leaves everything as it is.

* `recognised`: the status that a reply names;
* `System.written?`: what an event writes; `value_of_apply` says that nothing else is written;
* `System.outcome?`, `System.flag?`: what a check finds, and whether any other write is a change;
  `changes_of_apply` compares them with the status;
* `passed_of_apply`: what comes of a reply that names no status;
* `System.along`: what a run comes to, moment by moment;
* `System.noticed`: what a subscriber is told that looks behind every event;
* `last_known`: the status behind every run, and what its checks have found.
-/

set_option autoImplicit false

namespace AlarmMonitor.Watch

open AlarmMonitor.Backend (Reply)
open AlarmMonitor.Install (Status Cell Subscription Outcome)

/-! ## Replies -/

/-- The status that a reply names, if its signal is recognised. -/
def recognised : Reply → Option Status
  | .failure _ => none
  | .body text => Install.reported text

/-- What a check finds in a reply. -/
def verdict (c : Cell) (reply : Reply) : Outcome :=
  match recognised reply, reply with
  | some v, _ => if c.value = v then .unchanged v else .changed v
  | none, .body _ => .unrecognised
  | none, .failure _ => .failed

/-- The cell behind a check. -/
def settle (c : Cell) (reply : Reply) : Cell :=
  match recognised reply with
  | some v => (c.set v).1
  | none => c

/-- The cell, the outcome and the notes of a reply. -/
theorem applyReply_eq (c : Cell) (endpoint : String) (reply : Reply) :
    ∃ ns, Install.applyReply c endpoint reply = (settle c reply, verdict c reply, ns) := by
  cases reply with
  | failure message => exact ⟨_, rfl⟩
  | body text =>
      simp only [Install.applyReply, settle, verdict, recognised]
      cases Install.reported text with
      | none => exact ⟨_, rfl⟩
      | some v =>
          by_cases hvalue : c.value = v
          · simp only [Cell.set, if_pos hvalue]
            exact ⟨_, rfl⟩
          · simp only [Cell.set, if_neg hvalue]
            exact ⟨_, rfl⟩

theorem verdict_eq_changed_iff {c : Cell} {reply : Reply} {v : Status} :
    verdict c reply = .changed v ↔ recognised reply = some v ∧ c.value ≠ v := by
  unfold verdict
  cases hreply : recognised reply with
  | none => cases reply <;> simp
  | some w =>
      by_cases hvalue : c.value = w
      · simp [hvalue]
      · simp only [if_neg hvalue, Outcome.changed.injEq, Option.some.injEq]
        exact ⟨fun h => ⟨h, h ▸ hvalue⟩, And.left⟩

theorem value_settle (c : Cell) (reply : Reply) :
    (settle c reply).value = (recognised reply).getD c.value := by
  unfold settle
  cases recognised reply with
  | none => rfl
  | some v => exact c.value_set v

/-- What is seen of a check besides its notes. -/
def shown : Outcome → List Effect
  | .changed v => [.transition v]
  | _ => []

/-! ## Writes -/

/-- The reply that a task has been handed and is about to apply to the status. -/
def Task.reply? : Task → Option Reply
  | .boot (.answered reply) | .launch (.answered reply) | .check (.answered reply)
  | .loop _ _ (.answered _ reply) => some reply
  | _ => none

namespace System

/-- What an event writes. -/
def written? (s : System) : Event → Option Status
  | .set v => some v
  | .step id => ((s.task? id).bind Task.reply?).bind recognised
  | _ => none

theorem value_of_bootStep {s : System} {id : Nat} {phase next : Boot} {p : Polling.System}
    {c : Cell} {effects : List Effect} (h : Boot.Step s id phase p c next effects) :
    c.value = ((Task.boot phase).reply?.bind recognised).getD s.cell.value := by
  cases h with
  | unrecognised hread => simp [Task.reply?, recognised, hread]
  | reported hread hvalue => simp [Task.reply?, recognised, hread, hvalue]
  | ask | failed | start | stop | started | reset => rfl

theorem applyReply_watch (s : System) (endpoint : String) (reply : Reply) :
    ∃ ns, s.applyReply endpoint reply =
      ({ s with cell := settle s.cell reply }, verdict s.cell reply,
        shown (verdict s.cell reply) ++ notes ns) := by
  obtain ⟨ns, hreply⟩ := applyReply_eq s.cell endpoint reply
  refine ⟨ns, ?_⟩
  unfold applyReply
  rw [hreply]
  rfl

theorem stepCheck_answered (s : System) (id : Nat) (reply : Reply) :
    ∃ ns, s.stepCheck id (.answered reply) =
      some ({ s with cell := settle s.cell reply }.setTask id
        (.check (.ended (verdict s.cell reply))), shown (verdict s.cell reply) ++ notes ns) := by
  obtain ⟨ns, hreply⟩ := s.applyReply_watch s.settings.endpoint reply
  refine ⟨ns, ?_⟩
  simp only [stepCheck, hreply]

theorem stepLoop_answered (s : System) (id : Nat) (settings : Install.Settings) (halting : Bool)
    (next : Nat) (reply : Reply) :
    ∃ ns, s.stepLoop id settings halting (.answered next reply) =
      some ({ s with cell := settle s.cell reply }.setTask id
        (.loop settings halting (.waiting next)),
        shown (verdict s.cell reply) ++ notes ns ++ [.note (.checked (verdict s.cell reply))]) := by
  obtain ⟨ns, hreply⟩ := s.applyReply_watch settings.endpoint reply
  refine ⟨ns, ?_⟩
  simp only [stepLoop, hreply]

/-- The piece of a task leaves the status that its reply names, if it has one that does. -/
theorem value_of_stepTask {s t : System} {id : Nat} {task : Task} {effects : List Effect}
    (h : s.stepTask id task = some (t, effects)) :
    t.cell.value = (task.reply?.bind recognised).getD s.cell.value := by
  cases task with
  | boot phase =>
      obtain ⟨p, c, next, hstep, rfl⟩ := boot_of_stepBoot h
      exact value_of_bootStep hstep
  | launch phase =>
      have hreply : (Task.launch phase).reply? = (Task.boot phase).reply? := by
        cases phase <;> rfl
      by_cases hended : ∃ result, phase = .ended result
      · obtain ⟨result, rfl⟩ := hended
        obtain ⟨⟨u, seen⟩, hpoller, heq⟩ := Option.map_eq_some_iff.mp h
        obtain ⟨p, told, hp, rfl, rfl⟩ := poller_eq_some_iff.mp hpoller
        cases heq
        rfl
      · rw [stepTask_launch fun result hphase => hended ⟨result, hphase⟩] at h
        obtain ⟨p, c, next, hstep, rfl⟩ := boot_of_stepBoot h
        rw [hreply]
        exact value_of_bootStep hstep
  | observer sub phase =>
      obtain ⟨p, sub', next, hstep, rfl⟩ := observer_of_stepObserver h
      rfl
  | loop settings halting phase =>
      cases phase with
      | answered next reply =>
          obtain ⟨ns, hloop⟩ := s.stepLoop_answered id settings halting next reply
          cases Option.some.inj (hloop.symm.trans h)
          exact value_settle s.cell reply
      | spawned =>
          cases Option.some.inj h
          rfl
      | waiting next =>
          simp only [stepTask, stepLoop] at h
          split at h
          · cases Option.some.inj h
            rfl
          · cases h
      | asking | ended => cases h
  | check q =>
      cases q with
      | answered reply =>
          obtain ⟨ns, hcheck⟩ := s.stepCheck_answered id reply
          cases Option.some.inj (hcheck.symm.trans h)
          exact value_settle s.cell reply
      | ready =>
          cases Option.some.inj h
          rfl
      | waiting | ended => cases h
  | fetch q =>
      obtain ⟨next, rfl, _, _⟩ := fetch_of_stepFetch h
      rfl
  | shutdown observer loop phase => cases shutdown_of_stepShutdown h <;> rfl
  | launched | gone => cases h

/-- Only a task can take a step. -/
theorem task_of_step {s : System} {id : Nat} {r : System × List Effect}
    (h : s.apply (.step id) = some r) : ∃ task, s.task? id = some task := by
  have hstep : s.step id = some r := h
  unfold step at hstep
  split at hstep
  · rename_i slot hslot
    exact ⟨slot.task, task?_of_slot hslot rfl⟩
  · exact absurd hstep nofun

/-- The status behind an event is what the event writes, if it writes. -/
theorem value_of_apply {s t : System} {e : Event} {effects : List Effect}
    (h : s.apply e = some (t, effects)) : t.cell.value = (s.written? e).getD s.cell.value := by
  cases e with
  | step id =>
      obtain ⟨task, htask⟩ := task_of_step h
      rw [written?, htask, Option.bind_some]
      exact value_of_stepTask (stepTask_of_apply htask h)
  | set v =>
      cases act_of_apply h with
      | set hvalue => exact hvalue
      | begin hbegun => exact absurd hbegun nofun
  | poller | boot | launch | check | fetch | spawnLoop | halt | deliver | drop | askToEnd
  | dropHandle | shutdown | retainStatus | releaseStatus =>
      cases act_of_apply h <;> rfl

/-! ## Replies that are not recognised -/

end System

/-- The task behind a reply that names no status. -/
def Task.passed : Task → Task
  | .boot _ => .boot (.ended none)
  | .launch _ => .launch (.ended none)
  | .check (.answered (.failure _)) => .check (.ended .failed)
  | .check (.answered (.body _)) => .check (.ended .unrecognised)
  | .loop settings halting (.answered next _) => .loop settings halting (.waiting next)
  | t => t

namespace System

theorem passed_of_stepBoot {s t : System} {id : Nat} {wrap : Boot → Task} {reply : Reply}
    {effects : List Effect} (hnone : recognised reply = none)
    (h : s.stepBoot id wrap (.answered reply) = some (t, effects)) :
    t = s.setTask id (wrap (.ended none)) ∧ ∀ x ∈ effects, ∃ n, x = .note n := by
  obtain ⟨p, c, next, hstep, rfl⟩ := boot_of_stepBoot h
  cases hstep with
  | failed => exact ⟨rfl, fun x hx => ⟨_, List.mem_singleton.mp hx⟩⟩
  | unrecognised => exact ⟨rfl, fun x hx => ⟨_, List.mem_singleton.mp hx⟩⟩
  | reported hread => exact absurd (hread.symm.trans hnone) nofun

/-- A reply that names no status is noted, and ends what waited for it; nothing else happens. -/
theorem passed_of_apply {s t : System} {id : Nat} {task : Task} {reply : Reply}
    {effects : List Effect} (htask : s.task? id = some task) (hreply : task.reply? = some reply)
    (hnone : recognised reply = none) (h : s.apply (.step id) = some (t, effects)) :
    t = s.setTask id task.passed ∧ ∀ x ∈ effects, ∃ n, x = .note n := by
  have hstep := stepTask_of_apply htask h
  have hnotes : ∀ ns, ∀ x ∈ notes ns, ∃ n, x = .note n := by
    intro ns x hx
    obtain ⟨n, _, rfl⟩ := List.mem_map.mp hx
    exact ⟨n, rfl⟩
  have hcell : settle s.cell reply = s.cell := by
    unfold settle
    rw [hnone]
  have hshown : shown (verdict s.cell reply) = [] := by
    unfold verdict
    rw [hnone]
    cases reply <;> rfl
  unfold Task.reply? at hreply
  split at hreply
  · cases hreply
    exact passed_of_stepBoot hnone hstep
  · cases hreply
    exact passed_of_stepBoot hnone hstep
  · cases hreply
    obtain ⟨ns, hcheck⟩ := s.stepCheck_answered id reply
    cases Option.some.inj (hcheck.symm.trans hstep)
    rw [hcell, hshown, List.nil_append]
    refine ⟨?_, hnotes ns⟩
    cases reply with
    | failure message => rfl
    | body text => simp only [Task.passed, verdict, hnone]
  · cases hreply
    obtain ⟨ns, hloop⟩ := s.stepLoop_answered id _ _ _ reply
    cases Option.some.inj (hloop.symm.trans hstep)
    rw [hcell, hshown, List.nil_append]
    refine ⟨rfl, fun x hx => ?_⟩
    rcases List.mem_append.mp hx with hfirst | hlast
    · exact hnotes ns x hfirst
    · exact ⟨_, List.mem_singleton.mp hlast⟩
  · exact absurd hreply nofun

/-! ## What checks find -/

/-- A single check that has its reply ends with what it finds, unless it was told to end. -/
theorem check_ends {s : System} {id : Nat} {reply : Reply}
    (hslot : s.slots[id]? = some ⟨.check (.answered reply), false⟩) :
    ∃ t effects, s.apply (.step id) = some (t, effects) ∧
      t.task? id = some (.check (.ended (verdict s.cell reply))) := by
  obtain ⟨ns, hcheck⟩ := s.stepCheck_answered id reply
  have hlt := (List.getElem?_eq_some_iff.mp hslot).1
  have hstep : s.step id = s.stepCheck id (.answered reply) := by
    simp only [step, hslot, Bool.false_and, Bool.false_eq_true, if_false, stepTask]
  exact ⟨_, _, hstep.trans hcheck,
    task?_setTask_self (s := { s with cell := settle s.cell reply }) hlt _⟩

/-- The result of the single check at a place. -/
def result? (s : System) (id : Nat) : Option Outcome :=
  match s.task? id with
  | some (.check (.ended o)) => some o
  | _ => none

/-- The outcome in a note about a periodic check. -/
def noted? : Effect → Option Outcome
  | .note (.checked o) => some o
  | _ => none

/-- The outcome of the check that applies its reply in an event.  A single check has it as its
result, and a loop notes it behind everything else. -/
def outcome? (s : System) : Event → Option Outcome
  | .step id =>
    match s.task? id, s.apply (.step id) with
    | some (.check (.answered _)), some (t, _) => t.result? id
    | some (.loop _ _ (.answered ..)), some (_, effects) => effects.getLast?.bind noted?
    | _, _ => none
  | _ => none

/-- Whether the status was changed by an event that sets it from outside or for a check at boot. -/
def flag? (s : System) : Event → Option Bool
  | .set v => some (s.cell.set v).2
  | .step id =>
    match s.task? id with
    | some (.boot (.answered reply)) | some (.launch (.answered reply)) =>
      (recognised reply).map fun v => (s.cell.set v).2
    | _ => none
  | _ => none

/-- The outcome is a change. -/
def isChange : Outcome → Bool
  | .changed _ => true
  | _ => false

/-- The changes that an event is said to make: by the outcome of a check, and by a set. -/
def changes (s : System) (e : Event) : Nat :=
  (s.outcome? e).toList.countP isChange + (s.flag? e).toList.count true

theorem isChange_verdict (c : Cell) (reply : Reply) :
    isChange (verdict c reply) = decide ((recognised reply).getD c.value ≠ c.value) := by
  unfold verdict
  cases recognised reply with
  | none => cases reply <;> simp [isChange]
  | some v =>
      by_cases hvalue : c.value = v
      · simp [hvalue, isChange]
      · simp [hvalue, Ne.symm hvalue, isChange]

theorem outcome?_check {s t : System} {id : Nat} {reply : Reply} {effects : List Effect}
    (htask : s.task? id = some (.check (.answered reply)))
    (h : s.apply (.step id) = some (t, effects)) :
    s.outcome? (.step id) = some (verdict s.cell reply) := by
  obtain ⟨ns, hcheck⟩ := s.stepCheck_answered id reply
  have hstep : s.stepCheck id (.answered reply) = some (t, effects) := stepTask_of_apply htask h
  obtain ⟨rfl, _⟩ := Prod.mk.inj (Option.some.inj (hcheck.symm.trans hstep))
  have hresult := task?_setTask_self (s := { s with cell := settle s.cell reply })
    (lt_length_of_task? htask) (.check (.ended (verdict s.cell reply)))
  simp only [outcome?, htask, h, result?, hresult]

theorem outcome?_loop {s t : System} {id next : Nat} {settings : Install.Settings}
    {halting : Bool} {reply : Reply} {effects : List Effect}
    (htask : s.task? id = some (.loop settings halting (.answered next reply)))
    (h : s.apply (.step id) = some (t, effects)) :
    s.outcome? (.step id) = some (verdict s.cell reply) := by
  obtain ⟨ns, hloop⟩ := s.stepLoop_answered id settings halting next reply
  have hstep : s.stepLoop id settings halting (.answered next reply) = some (t, effects) :=
    stepTask_of_apply htask h
  obtain ⟨_, rfl⟩ := Prod.mk.inj (Option.some.inj (hloop.symm.trans hstep))
  simp only [outcome?, htask, h, List.getLast?_concat]
  rfl

theorem changes_of_flag {s t : System} {e : Event} (written : Option Status)
    (houtcome : s.outcome? e = none) (hflag : s.flag? e = written.map fun v => (s.cell.set v).2)
    (hvalue : t.cell.value = written.getD s.cell.value) :
    s.changes e = if t.cell.value = s.cell.value then 0 else 1 := by
  rw [changes, houtcome, hflag, hvalue]
  cases written with
  | none => simp
  | some v =>
      rw [Option.map_some, Cell.flag_set]
      by_cases hsame : s.cell.value = v
      · simp [hsame]
      · simp [hsame, Ne.symm hsame]

theorem changes_of_verdict {s t : System} {e : Event} {reply : Reply}
    (houtcome : s.outcome? e = some (verdict s.cell reply)) (hflag : s.flag? e = none)
    (hvalue : t.cell.value = (recognised reply).getD s.cell.value) :
    s.changes e = if t.cell.value = s.cell.value then 0 else 1 := by
  rw [changes, houtcome, hflag, hvalue]
  by_cases hsame : (recognised reply).getD s.cell.value = s.cell.value
  · simp [isChange_verdict, hsame]
  · simp [isChange_verdict, hsame]

/-- An event is said to make a change exactly if the status behind it is another one. -/
theorem changes_of_apply {s t : System} {e : Event} {effects : List Effect}
    (h : s.apply e = some (t, effects)) :
    s.changes e = if t.cell.value = s.cell.value then 0 else 1 := by
  have hvalue := value_of_apply h
  cases e with
  | step id =>
      obtain ⟨task, htask⟩ := task_of_step h
      rw [written?, htask, Option.bind_some] at hvalue
      cases task with
      | boot phase | launch phase =>
          refine changes_of_flag _ ?_ ?_ hvalue
          · simp only [outcome?, htask]
          · cases phase <;> simp only [flag?, htask] <;> rfl
      | check q =>
          cases q with
          | answered reply =>
              refine changes_of_verdict (outcome?_check htask h) ?_ hvalue
              simp only [flag?, htask]
          | ready | waiting | ended =>
              refine changes_of_flag none ?_ ?_ hvalue
              · simp only [outcome?, htask]
              · simp only [flag?, htask, Option.map_none]
      | loop settings halting phase =>
          cases phase with
          | answered next reply =>
              refine changes_of_verdict (outcome?_loop htask h) ?_ hvalue
              simp only [flag?, htask]
          | spawned | waiting | asking | ended =>
              refine changes_of_flag none ?_ ?_ hvalue
              · simp only [outcome?, htask]
              · simp only [flag?, htask, Option.map_none]
      | launched | observer | fetch | shutdown | gone =>
          refine changes_of_flag none ?_ ?_ hvalue
          · simp only [outcome?, htask]
          · simp only [flag?, htask, Option.map_none]
  | set v => exact changes_of_flag (some v) rfl rfl hvalue
  | poller | boot | launch | check | fetch | spawnLoop | halt | deliver | drop | askToEnd
  | dropHandle | shutdown | retainStatus | releaseStatus =>
      exact changes_of_flag none rfl rfl hvalue

/-! ## Runs -/

/-- What a run comes to, moment by moment. -/
def along {α : Type} (f : System → Event → Option α) (s : System) : List Event → List α
  | [] => []
  | e :: rest =>
    (f s e).toList ++
      match s.apply e with
      | some (t, _) => t.along f rest
      | none => []

/-- What a subscriber is told that looks behind every event. -/
def noticed (s : System) (sub : Subscription) : List Event → List Status
  | [] => []
  | e :: rest =>
    match s.apply e with
    | some (t, _) =>
      match t.cell.look sub with
      | .changed v sub => v :: t.noticed sub rest
      | _ => t.noticed sub rest
    | none => []

theorem along_cons {α : Type} (f : System → Event → Option α) {s t : System} {e : Event}
    {effects : List Effect} (h : s.apply e = some (t, effects)) (rest : List Event) :
    s.along f (e :: rest) = (f s e).toList ++ t.along f rest := by
  simp only [along, h]

/-- The status behind a run is what was written last. -/
theorem value_of_run {s t : System} {events : List Event} {effects : List Effect}
    (hrun : s.run events = some (t, effects)) :
    t.cell.value = (s.along written? events).getLast?.getD s.cell.value := by
  induction events generalizing s effects with
  | nil =>
      cases hrun
      rfl
  | cons e rest ih =>
      obtain ⟨u, first, later, happly, hrest, rfl⟩ := run_cons_eq_some_iff.mp hrun
      rw [ih hrest, value_of_apply happly, along_cons written? happly, List.getLast?_append]
      cases (u.along written? rest).getLast? with
      | some v => rfl
      | none => cases s.written? e <;> rfl

/-- Behind an event a subscriber that had seen everything is told of a change if there was one. -/
theorem noticed_cons {s t : System} {e : Event} {effects : List Effect}
    (h : s.apply e = some (t, effects)) (rest : List Event) :
    s.noticed s.cell.subscribe (e :: rest) =
      (if t.cell.value = s.cell.value then [] else [t.cell.value]) ++
        t.noticed t.cell.subscribe rest := by
  simp only [noticed, h]
  cases turn_of_act (act_of_apply h) with
  | still hvalue hversion =>
      have hseen : s.cell.subscribe = t.cell.subscribe := congrArg Subscription.mk hversion.symm
      have hlook : ∀ v sub, t.cell.look s.cell.subscribe ≠ .changed v sub := fun v sub hchanged =>
        (look_eq_changed_iff.mp hchanged).1 hversion
      rw [if_pos hvalue, List.nil_append, ← hseen]
      split
      · rename_i v sub hchanged
        exact absurd hchanged (hlook v sub)
      · rfl
  | flip hvalue hversion =>
      have hnew : t.cell.version ≠ s.cell.version := by omega
      have hlook : t.cell.look s.cell.subscribe = .changed t.cell.value t.cell.subscribe :=
        look_eq_changed_iff.mpr ⟨hnew, rfl, rfl⟩
      rw [if_neg hvalue, hlook]
      rfl

/-- A run is said to make as many changes as such a subscriber is told of. -/
theorem changes_of_run {s t : System} {events : List Event} {effects : List Effect}
    (hrun : s.run events = some (t, effects)) :
    (s.along outcome? events).countP isChange + (s.along flag? events).count true =
      (s.noticed s.cell.subscribe events).length := by
  induction events generalizing s effects with
  | nil => rfl
  | cons e rest ih =>
      obtain ⟨u, first, later, happly, hrest, rfl⟩ := run_cons_eq_some_iff.mp hrun
      have hchanges := changes_of_apply happly
      rw [changes] at hchanges
      rw [along_cons outcome? happly, along_cons flag? happly, noticed_cons happly,
        List.countP_append, List.count_append, List.length_append, ← ih hrest]
      split at hchanges
      · rename_i hsame
        rw [if_pos hsame, List.length_nil]
        omega
      · rename_i hother
        rw [if_neg hother, List.length_singleton]
        omega

theorem value_build (hint : String) (options : Polling.Options) (settings : Install.Settings)
    (initial : Status) : (build hint options settings initial).cell.value = initial := by
  obtain ⟨p, seen, _, hbuild⟩ := build_eq hint options settings initial
  rw [hbuild]
  rfl

/-- Behind every run the status is what was written last, from outside or by a check whose reply
names a status, or else the initial one.  The checks that find a change and the other writes that
are changes are together as many as the changes that a subscriber can be told of.  A check that has
its reply now finds a change to a status exactly if the reply names it and the status is another
one; and a task whose reply names no status ends its question, with notes about it, and leaves
everything else as it is: the status, every subscriber, the poller and the client. -/
theorem last_known (hint : String) (options : Polling.Options) (settings : Install.Settings)
    (initial : Status) {events : List Event} {s : System} {effects : List Effect}
    (hrun : (build hint options settings initial).run events = some (s, effects)) :
    let new := build hint options settings initial
    s.cell.value = (new.along written? events).getLast?.getD initial ∧
    (new.along outcome? events).countP isChange + (new.along flag? events).count true =
      (new.noticed new.cell.subscribe events).length ∧
    (∀ id reply, s.slots[id]? = some ⟨.check (.answered reply), false⟩ →
      ∃ t told outcome, s.apply (.step id) = some (t, told) ∧
        t.task? id = some (.check (.ended outcome)) ∧
        ∀ v, outcome = .changed v ↔ recognised reply = some v ∧ s.cell.value ≠ v) ∧
    ∀ id task reply t told, s.task? id = some task → task.reply? = some reply →
      recognised reply = none → s.apply (.step id) = some (t, told) →
      t = s.setTask id task.passed ∧ ∀ x ∈ told, ∃ n, x = .note n := by
  intro new
  refine ⟨?_, changes_of_run hrun, fun id reply hslot => ?_,
    fun id task reply t told htask hreply hnone h => passed_of_apply htask hreply hnone h⟩
  · rw [value_of_run hrun, value_build]
  · obtain ⟨t, told, happly, htask⟩ := check_ends hslot
    exact ⟨t, told, _, happly, htask, fun v => verdict_eq_changed_iff⟩

/-- A body that reports a status. -/
def reporting (v : Status) : Reply := .body ("\x7b\"state\":" ++ v.json ++ "\x7d")

/-- A check finds a change, another one is made from outside, a boot check fails, and a second check
has a reply with the status there is. -/
def raced : List Event :=
  [.check, .step 0, .deliver 0 (reporting .install), .step 0, .boot, .step 1, .set .uninstall,
    .deliver 1 (.failure "down"), .check, .step 2, .deliver 2 (reporting .uninstall)]

theorem last_known_of_raced :
    ∃ s effects, (build "" .none .standard .uninstall).run raced = some (s, effects) ∧
      s.cell.value = .uninstall ∧
      (∃ t told outcome, s.apply (.step 2) = some (t, told) ∧
        t.task? 2 = some (.check (.ended outcome)) ∧ ∀ v, outcome ≠ .changed v) ∧
      ∃ t told, s.apply (.step 1) = some (t, told) ∧ t = s.setTask 1 (.boot (.ended none)) := by
  have hends : ((build "" .none .standard .uninstall).run raced).map
      (fun r => (r.1.slots[1]?, r.1.slots[2]?)) =
      some (some ⟨.boot (.answered (.failure "down")), false⟩,
        some ⟨.check (.answered (reporting .uninstall)), false⟩) := rfl
  obtain ⟨⟨s, effects⟩, hrun, hslots⟩ := Option.map_eq_some_iff.mp hends
  obtain ⟨hboot, hcheck⟩ := Prod.mk.inj hslots
  obtain ⟨hvalue, _, hfinds, hpasses⟩ := last_known "" .none .standard .uninstall hrun
  have huninstall : s.cell.value = .uninstall := hvalue.trans rfl
  obtain ⟨t, told, outcome, happly, htask, hchanged⟩ := hfinds 2 _ hcheck
  refine ⟨s, effects, hrun, huninstall, ⟨t, told, outcome, happly, htask, fun v houtcome => ?_⟩, ?_⟩
  · obtain ⟨hnamed, hother⟩ := (hchanged v).mp houtcome
    have hreported : recognised (reporting .uninstall) = some .uninstall := rfl
    exact hother (huninstall.trans (Option.some.inj (hreported.symm.trans hnamed)))
  · have hstep : s.apply (.step 1) = some (s.setTask 1 (.boot (.ended none)),
        [.note (.bootFailed "down")]) := by
      show s.step 1 = _
      simp only [step, hboot, Bool.false_and, Bool.false_eq_true, if_false, stepTask, stepBoot]
    exact ⟨_, _, hstep, (hpasses 1 _ _ _ _ (task?_of_slot hboot rfl) rfl rfl hstep).1⟩

end System

end AlarmMonitor.Watch
