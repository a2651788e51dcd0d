import AlarmMonitor.Proofs.Polling.Rest
import AlarmMonitor.Proofs.Watch.Course

/-!
# The shutdown of a watch

A shutdown waits for the loop, tells the observer to end, stops the poller, and returns, the last
three without a pause.  Once it has returned, nothing is left of the watch that could ask the
backend, show a text or reset the client.

* `System.Quiet`: no task is in the middle of a stretch between two waits;
* `System.Down`, `Down.apply`: a watch that is down stays down, and lets nothing be seen of it;
* `Course.down_of_shutdown`: a shutdown brings the watch down;
* `Course.silent_after_shutdown`: what follows a shutdown.
-/

set_option autoImplicit false

namespace AlarmMonitor.Watch

open AlarmMonitor.Install (Status Cell Subscription)

/-- Is the effect neither a request, nor a text, nor a reset? -/
def Effect.isSilent : Effect → Bool
  | .poller e => e.isSilent
  | .request .. | .reset => false
  | .note _ | .transition _ | .spawned _ | .told _ => true

theorem silent_map_poller {seen : List Polling.Effect}
    (h : ∀ x ∈ seen, x.isSilent = true) :
    ∀ x ∈ seen.map Effect.poller, x.isSilent = true := by
  intro x hx
  obtain ⟨e, he, rfl⟩ := List.mem_map.mp hx
  exact h e he

/-- The point behind the next piece of a shutdown. -/
def Shutdown.next : Shutdown → Shutdown
  | .signalling => .joining
  | .joining => .aborting
  | .aborting => .stopping
  | .stopping => .releasing
  | .releasing | .ended => .ended

namespace Task

/-- Has the task come to its end? -/
def isOver : Task → Bool
  | .boot (.ended _) | .launched .. | .observer _ .ended | .loop _ _ .ended => true
  | .check (.ended _) | .fetch (.ended _) | .shutdown _ _ .ended | .gone => true
  | _ => false

/-- Can no piece of the task ask the backend or reset the client, once it was told to end where it
waits? -/
def isHarmless : Task → Bool
  | .observer _ (.acting _) | .observer _ .stopped => false
  | .observer .. | .loop _ _ .ended | .launched .. | .shutdown .. | .gone => true
  | .boot _ | .launch _ | .loop .. | .check _ | .fetch _ => false

/-- An observer that waits or has ended is harmless. -/
theorem isHarmless_of_observer {s : System} {sub : Subscription} {phase : Observer}
    (h : s.isSuspended (.observer sub phase) = true ∨ (Task.observer sub phase).isOver = true) :
    (Task.observer sub phase).isHarmless = true := by
  cases phase with
  | watching | starting | ended => rfl
  | acting | stopped =>
      rcases h with h | h
      · exact absurd h nofun
      · exact absurd h nofun

/-- No reply makes a task one that can do harm where there are only others. -/
theorem deliver_of_isHarmless {t : Task} (h : t.isHarmless = true) (reply : Backend.Reply) :
    t.deliver reply = none := by
  cases t with
  | loop settings halting phase =>
      cases phase with
      | ended => rfl
      | spawned | waiting | asking | answered => exact absurd h nofun
  | observer | launched | shutdown | gone => rfl
  | boot | launch | check | fetch => exact absurd h nofun

end Task

namespace System

/-- No task of the watch or of its poller is in the middle of a stretch between two waits. -/
def Quiet (s : System) : Prop :=
  s.polling.Quiet ∧ ∀ slot ∈ s.slots, s.isSuspended slot.task = true ∨ slot.task.isOver = true

instance (s : System) : Decidable s.Quiet := inferInstanceAs (Decidable (_ ∧ _))

/-- Does the event leave the watch to one launch, and the poller without another start? -/
def startsNothing (s : System) (e : Event) : Bool :=
  s.admits e &&
    match e with
    | .poller pe => s.polling.startsNothing pe
    | _ => true

theorem admits_of_startsNothing {s : System} {e : Event} (h : s.startsNothing e = true) :
    s.admits e = true := (Bool.and_eq_true_iff.mp h).1

/-- No task of the watch can do harm. -/
def Harmless (s : System) : Prop := ∀ id t, s.task? id = some t → t.isHarmless = true

theorem Harmless.setTask {s : System} (hs : s.Harmless) {new : Task} (hnew : new.isHarmless = true)
    (id : Nat) : (s.setTask id new).Harmless := by
  intro place t h
  rcases task?_setTask_eq_some h with ⟨_, rfl⟩ | ⟨_, hold⟩
  · exact hnew
  · exact hs place t hold

theorem Harmless.addTask {s : System} (hs : s.Harmless) {new : Task}
    (hnew : new.isHarmless = true) : (s.addTask new).Harmless := by
  intro place t h
  rcases task?_addTask_eq_some h with hold | ⟨_, rfl⟩
  · exact hs place t hold
  · exact hnew

theorem Harmless.markAborted {s : System} (hs : s.Harmless) (id : Nat) :
    (s.markAborted id).Harmless :=
  fun place t h => hs place t (task?_markAborted_eq_some h)

/-- A loop that can do no harm has ended. -/
theorem Harmless.loop_eq {s : System} (hs : s.Harmless) {id : Nat} {settings : Install.Settings}
    {halting : Bool} {phase : Loop} (h : s.task? id = some (.loop settings halting phase)) :
    phase = .ended := by
  have hharmless := hs _ _ h
  cases phase with
  | ended => rfl
  | spawned | waiting | asking | answered => exact absurd hharmless nofun

/-- The watch is down: the poller is at rest, no observer is on duty, and no task can do harm. -/
structure Down (k : Nat) (s : System) : Prop extends s.Settled where
  rest : s.polling.AtRest k
  offDuty : s.duty? 1 = none
  harmless : s.Harmless

namespace Down

variable {k : Nat} {s t : System} {effects : List Effect}

/-- An observer that was told to end waits for the last time, or resumes from a start that is
over. -/
theorem observer (hs : s.Down k) {id : Nat} {slot : Slot} {sub sub' : Subscription}
    {phase next : Observer} {p : Polling.System} (hslot : s.slots[id]? = some slot)
    (hfree : (slot.aborted && s.isSuspended slot.task) = false)
    (htask : slot.task = .observer sub phase)
    (h : Observer.Step s sub phase p sub' next effects) :
    p = s.polling ∧ next = .watching ∧ effects = [] := by
  have hfound := task?_of_slot hslot htask
  have hharmless := hs.harmless _ _ hfound
  have hid : id = 1 := by
    generalize id = place at hfound
    cases hs.crew hfound
    rfl
  have hwatching : phase ≠ .watching := by
    rintro rfl
    have hsuspended : s.isSuspended slot.task = true := by
      rw [htask]
      rfl
    rw [hsuspended, Bool.and_true] at hfree
    have hduty : s.duty? 1 = some (sub, .watching) := by
      rw [duty?_eq_some_iff, ← hid, hslot, ← htask, ← hfree]
    exact absurd (hs.offDuty.symm.trans hduty) nofun
  cases h with
  | started => exact ⟨rfl, rfl, rfl⟩
  | look | close => exact absurd rfl hwatching
  | start | stop | reset => exact absurd hharmless nofun

/-- The pieces of a shutdown. -/
theorem shutdown (hs : s.Down k) {id observer loop : Nat} {phase : Shutdown}
    (h : Shutdown.Step s id observer loop phase t effects) :
    t.polling.AtRest k ∧ t.Harmless ∧ ∀ x ∈ effects, x.isSilent = true := by
  have htold : ∀ {seen : List Polling.Effect} {place : Nat}, (∀ x ∈ seen, x.isSilent = true) →
      ∀ x ∈ Effect.told place :: seen.map .poller, x.isSilent = true := by
    intro seen place hseen x hx
    rcases List.mem_cons.mp hx with rfl | hx
    · rfl
    · exact silent_map_poller hseen x hx
  have hreplaced : ∀ {p : Polling.System} {c : Cell},
      Harmless { s with polling := p, cell := c } := hs.harmless
  have hmarked : ∀ {p : Polling.System}, Harmless { s.markAborted observer with polling := p } :=
    hs.harmless.markAborted observer
  cases h with
  | signal hloop =>
      cases hs.harmless.loop_eq hloop
      exact ⟨hs.rest, (hs.harmless.setTask rfl _).setTask rfl _,
        htold fun x hx => absurd hx List.not_mem_nil⟩
  | join => exact ⟨hs.rest, hs.harmless.setTask rfl _, fun x hx => absurd hx List.not_mem_nil⟩
  | relieve hp =>
      rcases hp with ⟨rfl, rfl⟩ | ⟨call, hp⟩
      · exact ⟨hs.rest, hmarked.setTask rfl _, htold fun x hx => absurd hx List.not_mem_nil⟩
      · obtain ⟨hrest, hseen⟩ := hs.rest.apply rfl hp
        exact ⟨hrest, hmarked.setTask rfl _, htold hseen⟩
  | stop hp | release hp =>
      obtain ⟨hrest, hseen⟩ := hs.rest.apply rfl hp
      exact ⟨hrest, hreplaced.setTask rfl _, silent_map_poller hseen⟩

theorem act (hs : s.Down k) {e : Event} (he : s.startsNothing e = true) (h : s.Act e t effects) :
    t.polling.AtRest k ∧ t.Harmless ∧ ∀ x ∈ effects, x.isSilent = true := by
  have hnothing : ∀ x ∈ ([] : List Effect), x.isSilent = true :=
    fun x hx => absurd hx List.not_mem_nil
  have hbusy : ∀ {id : Nat} {slot : Slot} {task : Task}, s.slots[id]? = some slot →
      slot.task = task → task.isHarmless = true :=
    fun hslot htask => hs.harmless _ _ (task?_of_slot hslot htask)
  have hreplaced : ∀ {p : Polling.System} {c : Cell},
      Harmless { s with polling := p, cell := c } := hs.harmless
  cases h with
  | poller hp =>
      obtain ⟨hrest, hseen⟩ := hs.rest.apply (Bool.and_eq_true_iff.mp he).2 hp
      exact ⟨hrest, hreplaced, silent_map_poller hseen⟩
  | set _ _ honly =>
      refine ⟨hs.rest, hreplaced, fun x hx => ?_⟩
      rw [honly x hx]
      rfl
  | @begin e new hbegun =>
      refine ⟨hs.rest, hs.harmless.addTask ?_, hnothing⟩
      have hadmits := admits_of_startsNothing he
      cases e with
      | shutdown =>
          cases Option.some.inj hbegun
          rfl
      | launch => exact absurd ⟨List.isEmpty_iff.mp hadmits, rfl⟩ fun h => hs.past _ (Or.inr h)
      | boot | check | fetch => exact absurd hadmits nofun
      | poller | set | spawnLoop | step | halt | deliver | drop | askToEnd | dropHandle
      | retainStatus | releaseStatus => exact absurd hbegun nofun
  | spawnLoop => exact absurd (admits_of_startsNothing he) nofun
  | boot hslot htask hwrap =>
      have hharmless := hbusy hslot htask
      rcases hwrap with rfl | rfl
      · exact absurd hharmless nofun
      · exact absurd hharmless nofun
  | launched hslot htask | check hslot htask | fetch hslot htask =>
      exact absurd (hbusy hslot htask) nofun
  | observer hslot hfree htask hstep =>
      obtain ⟨rfl, rfl, rfl⟩ := hs.observer hslot hfree htask hstep
      exact ⟨hs.rest, hs.harmless.setTask rfl _, hnothing⟩
  | loop hslot htask hgoes =>
      exact absurd (hs.harmless.loop_eq (task?_of_slot hslot htask)) hgoes
  | shutdown hslot htask hstep => exact hs.shutdown hstep
  | halt => exact ⟨hs.rest, hs.harmless.setTask rfl _, hnothing⟩
  | deliver htask hnext =>
      rw [Task.deliver_of_isHarmless (hs.harmless _ _ htask)] at hnext
      exact absurd hnext nofun
  | @drop _ _ _ events _ _ _ _ _ _ hevents hp =>
      have hstarts : ∀ e ∈ events, ∀ p : Polling.System, p.startsNothing e = true := by
        intro e hmem p
        rcases hevents e hmem with rfl | ⟨call, rfl⟩
        · rfl
        · rfl
      obtain ⟨hrest, hseen⟩ := hs.rest.run hstarts hp
      exact ⟨hrest, hreplaced.setTask rfl _, silent_map_poller hseen⟩
  | askToEnd htask =>
      cases hs.harmless.loop_eq htask
      refine ⟨hs.rest, hs.harmless.setTask rfl _, fun x hx => ?_⟩
      rw [List.mem_singleton.mp hx]
      rfl
  | dropHandle htask hp =>
      cases hs.harmless.loop_eq htask
      obtain ⟨hrest, hseen⟩ := hs.rest.apply rfl hp
      refine ⟨hrest, hreplaced.setTask rfl _, fun x hx => ?_⟩
      rcases List.mem_cons.mp hx with rfl | hx
      · rfl
      · exact silent_map_poller hseen x hx
  | retainStatus | releaseStatus => exact ⟨hs.rest, hreplaced, hnothing⟩

/-- A watch that is down stays down, and lets nothing be seen of it, as long as nobody starts its
poller. -/
theorem apply (hs : s.Down k) {e : Event} (he : s.startsNothing e = true)
    (h : s.apply e = some (t, effects)) :
    t.Down k ∧ ∀ x ∈ effects, x.isSilent = true := by
  have hadmits := admits_of_startsNothing he
  obtain ⟨hrest, hharmless, hsilent⟩ := hs.act he (act_of_apply h)
  refine ⟨⟨hs.toSettled.apply hadmits h, hrest, ?_, hharmless⟩, hsilent⟩
  rw [Option.eq_none_iff_forall_not_mem]
  rintro ⟨sub, phase⟩ hduty
  cases hs.tends hadmits h hduty with
  | steps hbefore | stays hbefore => exact absurd (hs.offDuty.symm.trans hbefore) nofun

theorem run (hs : s.Down k) {events : List Event} (he : s.heeds System.startsNothing events = true)
    (h : s.run events = some (t, effects)) : ∀ x ∈ effects, x.isSilent = true := by
  have hkept := heeding_induction (P := fun seen s => s.Down k ∧ ∀ x ∈ seen, x.isSilent = true)
    (fun {seen _ _ _ _} hs he happly => ?_) [] ⟨hs, fun x hx => absurd hx List.not_mem_nil⟩ he h
  · exact hkept.2
  · obtain ⟨hdown, hsilent⟩ := hs.1.apply he happly
    refine ⟨hdown, fun x hx => ?_⟩
    rcases List.mem_append.mp hx with hx | hx
    · exact hs.2 x hx
    · exact hsilent x hx

end Down

/-! ## Going down -/

/-- The next piece of a shutdown. -/
theorem shutdown_of_apply {s t : System} {id observer loop : Nat} {phase : Shutdown}
    {effects : List Effect} (htask : s.task? id = some (.shutdown observer loop phase))
    (h : s.apply (.step id) = some (t, effects)) :
    Shutdown.Step s id observer loop phase t effects :=
  shutdown_of_stepShutdown (stepTask_of_apply htask h)

theorem next_of_shutdownStep {s t : System} {id observer loop : Nat} {phase : Shutdown}
    {effects : List Effect} (hid : id < s.slots.length)
    (h : Shutdown.Step s id observer loop phase t effects) :
    t.task? id = some (.shutdown observer loop phase.next) := by
  cases h with
  | signal =>
      rw [← length_setTask] at hid
      exact task?_setTask_self hid _
  | relieve =>
      rw [← length_markAborted s observer] at hid
      exact task?_setTask_self hid _
  | join | stop | release => exact task?_setTask_self hid _

/-- Between two stretches of its tasks, a watch whose launch is over and whose loop has ended can do
no harm. -/
theorem harmless_of_quiet {s : System} (hs : s.Settled) (hquiet : s.Quiet)
    (hended : s.loopHasEnded 2 = true) : s.Harmless := by
  intro id task htask
  have hcrew := hs.crew htask
  obtain ⟨slot, hslot, hkind⟩ := task?_eq_some_iff.mp htask
  have hwaits := hquiet.2 slot (List.mem_of_getElem? hslot)
  rw [hkind] at hwaits
  cases hcrew with
  | launch => exact absurd htask (hs.launch_ne _)
  | observer => exact Task.isHarmless_of_observer hwaits
  | @loop settings halting phase =>
      cases phase with
      | ended => rfl
      | spawned | waiting | asking | answered =>
          simp only [loopHasEnded, htask, Bool.false_eq_true] at hended
  | launched | shutdown | gone => rfl

/-- A shutdown that has waited for the loop tells the observer to end.  The watch can do no harm
then, and no task of the poller is in the middle of a stretch. -/
theorem harmless_of_relieve {s t : System} {id : Nat} {effects : List Effect}
    (hquiet : s.polling.Quiet) (hharmless : s.Harmless)
    (h : Shutdown.Step s id 1 2 .aborting t effects) : t.polling.Quiet ∧ t.Harmless := by
  cases h with
  | @relieve p _ hp =>
      have hmarked : Harmless { s.markAborted 1 with polling := p } := hharmless.markAborted 1
      refine ⟨?_, hmarked.setTask rfl id⟩
      rcases hp with ⟨rfl, _⟩ | ⟨call, hp⟩
      · exact hquiet
      · exact hquiet.abort hp

/-- A watch whose shutdown has told the observer to end goes down with the poller. -/
theorem down_of_stop {s t : System} {id : Nat} {effects : List Effect} (hs : s.Manned)
    (ht : t.Settled) (hquiet : s.polling.Quiet) (hharmless : s.Harmless)
    (htask : t.task? id = some (.shutdown 1 2 .releasing))
    (h : Shutdown.Step s id 1 2 .stopping t effects) : ∃ k, t.Down k := by
  cases h with
  | @stop p _ hp =>
      have hrest := (Polling.System.atRest_of_stop hs.reachable hquiet hp).1
      have hkept : Harmless { s with polling := p } := hharmless
      exact ⟨_, ht, hrest, ht.relieved htask rfl, hkept.setTask rfl id⟩

/-- A shutdown that has waited for the loop brings the watch down in one stretch. -/
theorem down_of_run {s t : System} {id : Nat} {told : List Effect} (hs : s.Settled)
    (hquiet : s.Quiet) (htask : s.task? id = some (.shutdown 1 2 .joining))
    (h : s.run (List.replicate 4 (.step id)) = some (t, told)) :
    (∃ k, t.Down k) ∧ t.task? id = some (.shutdown 1 2 .ended) := by
  have hnext : ∀ {s t : System} {phase : Shutdown} {effects : List Effect},
      s.task? id = some (.shutdown 1 2 phase) → s.apply (.step id) = some (t, effects) →
      t.task? id = some (.shutdown 1 2 phase.next) := fun htask happly =>
    next_of_shutdownStep (lt_length_of_task? htask) (shutdown_of_apply htask happly)
  obtain ⟨joined, _, _, hjoin, hrest, _⟩ := run_cons_eq_some_iff.mp h
  obtain ⟨relieved, _, _, hrelieve, hrest, _⟩ := run_cons_eq_some_iff.mp hrest
  obtain ⟨stopped, _, _, hstop, hrest, _⟩ := run_cons_eq_some_iff.mp hrest
  obtain ⟨released, _, _, hrelease, hnil, _⟩ := run_cons_eq_some_iff.mp hrest
  cases hnil
  have haborting := hnext htask hjoin
  have hstopping := hnext haborting hrelieve
  have hreleasing := hnext hstopping hstop
  have hrelieved : relieved.Settled := (hs.apply rfl hjoin).apply rfl hrelieve
  obtain ⟨hjoined, hpolling⟩ : joined.Harmless ∧ joined.polling.Quiet := by
    cases shutdown_of_apply htask hjoin with
    | join hended => exact ⟨(harmless_of_quiet hs hquiet hended).setTask rfl id, hquiet.1⟩
  obtain ⟨hpolling', hharmless⟩ :=
    harmless_of_relieve hpolling hjoined (shutdown_of_apply haborting hrelieve)
  obtain ⟨k, hdown⟩ := down_of_stop hrelieved.toManned (hrelieved.apply rfl hstop) hpolling'
    hharmless hreleasing (shutdown_of_apply hstopping hstop)
  exact ⟨⟨k, (hdown.apply rfl hrelease).1⟩, hnext hreleasing hrelease⟩

end System

/-! ## What follows a shutdown -/

namespace Course

variable {hint : String} {options : Polling.Options} {settings : Install.Settings}
  {initial : Status}

/-- A shutdown that returns in a stretch of its own, at whatever point the other tasks wait, leaves
the poller stopped and without memory of any alarm.  From then on, as long as nobody starts the
poller, nobody asks the backend, no text is shown, and the client is not reset. -/
theorem silent_after_shutdown (c : Course System.admits (.build hint options settings initial))
    {id : Nat} {t : System} {told : List Effect}
    (htask : c.last.task? id = some (.shutdown c.observer c.loop .joining))
    (hquiet : c.last.Quiet)
    (hreturns : c.last.run (List.replicate 4 (.step id)) = some (t, told)) :
    t.task? id = some (.shutdown c.observer c.loop .ended) ∧
      t.polling.state.running = false ∧ t.polling.state.seen = .empty ∧
      ∀ {events : List Event} {u : System} {effects : List Effect},
        t.heeds System.startsNothing events = true → t.run events = some (u, effects) →
          ∀ x ∈ effects, x.isSilent = true := by
  have hnew := System.manned_build hint options settings initial
  have hopening := c.opening (fun he => he) hnew
  rw [hopening.observer_eq, hopening.loop_eq] at htask ⊢
  obtain ⟨⟨k, hdown⟩, hended⟩ :=
    System.down_of_run (c.settled (fun he => he) hnew) hquiet htask hreturns
  exact ⟨hended, hdown.rest.stopped, hdown.rest.seen, fun hheeds hrun => hdown.run hheeds hrun⟩

/-- A shutdown begins while the observer is inside a start whose first request is on its way, and a
call of somebody else has not begun. -/
def shuttingDown : Course System.admits (.build "" .none .standard .uninstall) :=
  afterFailedBoot .uninstall
    [.poller .retain, .set .install, .step 1, .step 1, .poller (.step 0), .poller (.step 0),
      .poller .poll, .shutdown 1 2, .step 3, .step 2, .halt 2]
    rfl (by decide)

/-- The watch when the shutdown has returned. -/
def shutDown : System × List Effect :=
  (shuttingDown.last.run (List.replicate 4 (.step 3))).get rfl

/-- The call of somebody else, the drop of the observer, the guard of its start, and another call. -/
def afterwards : List Event :=
  [.poller (.step 1), .drop 1, .poller (.step 0), .poller .poll, .poller (.step 2)]

theorem silent_after_shuttingDown :
    shutDown.1.polling.state.running = false ∧
      ∃ u effects, shutDown.1.run afterwards = some (u, effects) ∧
        ∀ x ∈ effects, x.isSilent = true := by
  have hreturns : shuttingDown.last.run (List.replicate 4 (.step 3)) =
      some (shutDown.1, shutDown.2) := rfl
  have hheeds : shutDown.1.heeds System.startsNothing afterwards = true := by decide
  obtain ⟨_, hstopped, _, hsilent⟩ := silent_after_shutdown shuttingDown rfl (by decide) hreturns
  exact ⟨hstopped, _, _, rfl, hsilent hheeds rfl⟩

end Course

end AlarmMonitor.Watch
