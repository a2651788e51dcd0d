import AlarmMonitor.Proofs.Watch.Transition

/-!
# The tasks of one launch

A watch that is launched once, with no boot check, single check or loop beside it, has few tasks:
the launch at place 0, which leaves an observer at place 1 and a loop at place 2 behind, and the
shutdowns of these two.

* `Manned`, `Manned.act`: what holds of such a watch at every moment;
* `boots_of_act`: a launch takes its own pieces and is left alone by everything else;
* `duty_of_act`: once the launch is over, so does and is an observer on duty.
-/

set_option autoImplicit false

namespace AlarmMonitor.Watch

open AlarmMonitor.Backend (Reply)
open AlarmMonitor.Install (Status Cell Subscription)

/-- Has the shutdown told the observer to end? -/
def Shutdown.isLate : Shutdown → Bool
  | .stopping | .releasing | .ended => true
  | .signalling | .joining | .aborting => false

/-- What an event asks of the poller by itself. -/
def Event.poller? : Event → Option Polling.Event
  | .poller e => some e
  | .dropHandle _ => some .release
  | _ => none

namespace System

/-- Has a launch returned this observer and this loop? -/
def hasLaunched (s : System) (observer loop : Nat) : Bool :=
  s.slots.any fun slot =>
    match slot.task with
    | .launched o l => o == observer && l == loop
    | _ => false

/-- Does the event leave the watch to one launch?  Nothing else boots, checks or loops, and only
what the launch returned is shut down. -/
def admits (s : System) : Event → Bool
  | .boot | .check | .fetch | .spawnLoop => false
  | .launch => s.slots.isEmpty
  | .shutdown observer loop => s.hasLaunched observer loop
  | _ => true

end System

/-- The tasks of a launch and their places. -/
inductive Crew : Nat → Task → Prop where
  | launch {phase : Boot} : Crew 0 (.launch phase)
  | launched : Crew 0 (.launched 1 2)
  | observer {sub : Subscription} {phase : Observer} : Crew 1 (.observer sub phase)
  | loop {settings : Install.Settings} {halting : Bool} {phase : Loop} :
      Crew 2 (.loop settings halting phase)
  | shutdown {id : Nat} {phase : Shutdown} : Crew id (.shutdown 1 2 phase)
  | gone {id : Nat} : Crew id .gone

theorem Turn.version_le {c next : Cell} {seen : List Effect} (h : Turn c next seen) :
    c.version ≤ next.version := by
  cases h with
  | still _ hversion => exact Nat.le_of_eq hversion.symm
  | flip _ hversion => exact hversion ▸ Nat.le_succ _

namespace System

/-- A watch that has one launch at most and no tasks besides. -/
structure Manned (s : System) : Prop where
  crew : ∀ {id t}, s.task? id = some t → Crew id t
  /-- A launch that goes on has created nothing. -/
  alone : ∀ {phase}, s.task? 0 = some (.launch phase) → s.slots.length = 1
  /-- A late shutdown has told the observer to end. -/
  relieved : ∀ {id phase}, s.task? id = some (.shutdown 1 2 phase) → phase.isLate = true →
    s.duty? 1 = none
  seen_le : ∀ {sub phase}, s.task? 1 = some (.observer sub phase) → sub.seen ≤ s.cell.version
  reachable : s.polling.Reachable

/-- What happens beside the tasks that start and stop the poller: to the poller what the event
asks by itself, to the status a transition at most, and the client is not reset. -/
structure Beside (s : System) (e : Event) (t : System) (effects : List Effect) : Prop where
  polling : (e.poller? = none ∧ t.polling = s.polling) ∨
    ∃ pe seen, e.poller? = some pe ∧ s.polling.apply pe = some (t.polling, seen)
  turn : Turn s.cell t.cell effects
  reset : Effect.reset ∉ effects

/-- Nothing happens to poller and status. -/
theorem Beside.of_still {s t : System} {e : Event} {effects : List Effect} (he : e.poller? = none)
    (hpolling : t.polling = s.polling) (hvalue : t.cell.value = s.cell.value)
    (hversion : t.cell.version = s.cell.version)
    (heffects : effects = [] ∨ ∃ id, effects = [.told id]) : Beside s e t effects := by
  rcases heffects with rfl | ⟨id, rfl⟩
  · exact ⟨Or.inl ⟨he, hpolling⟩, .still hvalue hversion rfl, List.not_mem_nil⟩
  · exact ⟨Or.inl ⟨he, hpolling⟩, .still hvalue hversion rfl,
      fun hreset => absurd (List.mem_singleton.mp hreset) nofun⟩

/-- The poller does what the event asks of it. -/
theorem Beside.of_poller {s t : System} {pe : Polling.Event} {seen : List Polling.Effect}
    (hp : s.polling.apply pe = some (t.polling, seen)) (hcell : t.cell = s.cell) :
    Beside s (.poller pe) t (seen.map .poller) := by
  obtain ⟨hsame, hreset⟩ := plain_map_poller seen
  exact ⟨Or.inr ⟨pe, seen, rfl, hp⟩, hcell ▸ .still rfl rfl hsame, hreset⟩

/-! ## One invariant for all moments -/

/-- A change of poller and status that is no step back. -/
theorem Manned.replace {s : System} (hs : Manned s) {p : Polling.System} {c : Cell}
    (hp : p.Reachable) (hversion : s.cell.version ≤ c.version) :
    Manned { s with polling := p, cell := c } where
  crew := hs.crew
  alone := hs.alone
  relieved := hs.relieved
  seen_le htask := Nat.le_trans (hs.seen_le htask) hversion
  reachable := hp

/-- Another task at a place that it may have. -/
theorem Manned.put {s : System} (hs : Manned s) {id : Nat} {new : Task} (hcrew : Crew id new)
    (hlaunch : ∀ {phase}, new = .launch phase → s.slots.length = 1)
    (hlate : ∀ {phase}, new = .shutdown 1 2 phase → phase.isLate = true → s.duty? 1 = none)
    (hobserver : ∀ {sub phase}, new = .observer sub phase →
      sub.seen ≤ s.cell.version ∧ ∃ sub' before, s.task? id = some (.observer sub' before)) :
    Manned (s.setTask id new) := by
  have hduty : s.duty? 1 = none → (s.setTask id new).duty? 1 = none := by
    intro hnone
    rw [Option.eq_none_iff_forall_not_mem]
    rintro ⟨sub, phase⟩ h
    rcases duty?_setTask_eq_some h with ⟨hid, hnew, slot, hslot, hfree⟩ | ⟨_, hold⟩
    · -- the slot was that of an observer and is not told to end, so it was on duty
      obtain ⟨_, sub', before, htask⟩ := hobserver hnew
      obtain ⟨slot', hslot', htask'⟩ := task?_eq_some_iff.mp htask
      cases Option.some.inj (hslot.symm.trans hslot')
      have hon : s.duty? 1 = some (sub', before) := by
        rw [hid, duty?_eq_some_iff, hslot, ← htask', ← hfree]
      exact absurd (hnone.symm.trans hon) nofun
    · exact absurd (hnone.symm.trans hold) nofun
  refine ⟨?_, ?_, ?_, ?_, hs.reachable⟩
  · intro place t h
    rcases task?_setTask_eq_some h with ⟨rfl, rfl⟩ | ⟨_, hold⟩
    · exact hcrew
    · exact hs.crew hold
  · intro phase h
    rw [length_setTask]
    rcases task?_setTask_eq_some h with ⟨_, hnew⟩ | ⟨_, hold⟩
    · exact hlaunch hnew.symm
    · exact hs.alone hold
  · intro place phase h hphase
    rcases task?_setTask_eq_some h with ⟨_, hnew⟩ | ⟨_, hold⟩
    · exact hduty (hlate hnew.symm hphase)
    · exact hduty (hs.relieved hold hphase)
  · intro sub phase h
    rcases task?_setTask_eq_some h with ⟨_, hnew⟩ | ⟨_, hold⟩
    · exact (hobserver hnew.symm).1
    · exact hs.seen_le hold

/-- A task of which nothing is asked takes a place. -/
theorem Manned.putPlain {s : System} (hs : Manned s) {id : Nat} {new : Task} (hcrew : Crew id new)
    (hlaunch : ∀ phase, new ≠ .launch phase) (hshutdown : ∀ phase, new ≠ .shutdown 1 2 phase)
    (hobserver : ∀ sub phase, new ≠ .observer sub phase) : Manned (s.setTask id new) :=
  hs.put hcrew (fun h => absurd h (hlaunch _)) (fun h => absurd h (hshutdown _))
    (fun h => absurd h (hobserver _ _))

theorem Manned.putLoop {s : System} (hs : Manned s) {id : Nat} {settings : Install.Settings}
    {halting halting' : Bool} {phase phase' : Loop}
    (htask : s.task? id = some (.loop settings halting phase)) :
    Manned (s.setTask id (.loop settings halting' phase')) := by
  cases hs.crew htask
  exact hs.putPlain .loop (fun _ => nofun) (fun _ => nofun) (fun _ _ => nofun)

theorem Manned.putShutdown {s : System} (hs : Manned s) {id : Nat} {phase : Shutdown}
    (hlate : phase.isLate = true → s.duty? 1 = none) :
    Manned (s.setTask id (.shutdown 1 2 phase)) :=
  hs.put .shutdown (fun h => absurd h nofun)
    (fun h hphase => hlate (by cases h; exact hphase)) (fun h => absurd h nofun)

/-- An observer that is told to end is no longer on duty. -/
theorem duty?_markAborted_self (s : System) (id : Nat) : (s.markAborted id).duty? id = none := by
  rw [Option.eq_none_iff_forall_not_mem]
  rintro ⟨sub, phase⟩ h
  exact (duty?_markAborted_eq_some h).1 rfl

theorem Manned.markAborted {s : System} (hs : Manned s) (id : Nat) : Manned (s.markAborted id) where
  crew h := hs.crew (task?_markAborted_eq_some h)
  alone h := (length_markAborted s id).trans (hs.alone (task?_markAborted_eq_some h))
  relieved h hphase := by
    rw [Option.eq_none_iff_forall_not_mem]
    rintro ⟨sub, phase⟩ hduty
    have hold := (duty?_markAborted_eq_some hduty).2
    rw [hs.relieved (task?_markAborted_eq_some h) hphase] at hold
    exact absurd hold nofun
  seen_le h := hs.seen_le (task?_markAborted_eq_some h)
  reachable := hs.reachable

/-- A new task that may stand behind the others. -/
theorem Manned.addTask {s : System} (hs : Manned s) (new : Task) (hcrew : Crew s.slots.length new)
    (halone : s.slots = [] ∨ (∀ phase, s.task? 0 ≠ some (.launch phase)) ∧
      ∀ phase, new ≠ .launch phase)
    (hshutdown : ∀ phase, new = .shutdown 1 2 phase → phase.isLate = false)
    (hobserver : ∀ sub phase, new = .observer sub phase →
      sub.seen ≤ s.cell.version ∧ ∀ id phase', s.task? id ≠ some (.shutdown 1 2 phase')) :
    Manned (s.addTask new) := by
  refine ⟨?_, ?_, ?_, ?_, hs.reachable⟩
  · intro id t h
    rcases task?_addTask_eq_some h with hold | ⟨rfl, rfl⟩
    · exact hs.crew hold
    · exact hcrew
  · intro phase h
    rw [length_addTask]
    rcases halone with hnil | ⟨hold, hnew⟩
    · rw [hnil]
      rfl
    · rcases task?_addTask_eq_some h with hkept | ⟨_, heq⟩
      · exact absurd hkept (hold phase)
      · exact absurd heq.symm (hnew phase)
  · intro id phase h hphase
    rw [Option.eq_none_iff_forall_not_mem]
    rintro ⟨sub, phase'⟩ hduty
    rcases task?_addTask_eq_some h with hold | ⟨_, hnew⟩
    · rcases duty?_addTask_eq_some hduty with hon | ⟨_, hobs⟩
      · exact absurd ((hs.relieved hold hphase).symm.trans hon) nofun
      · exact absurd hold ((hobserver _ _ hobs).2 id phase)
    · rw [hshutdown phase hnew.symm] at hphase
      exact absurd hphase nofun
  · intro sub phase h
    rcases task?_addTask_eq_some h with hold | ⟨_, hnew⟩
    · exact hs.seen_le hold
    · exact (hobserver _ _ hnew.symm).1

theorem hasLaunched_eq_true {s : System} (hs : Manned s) {observer loop : Nat}
    (h : s.hasLaunched observer loop = true) :
    s.task? 0 = some (.launched 1 2) ∧ observer = 1 ∧ loop = 2 := by
  obtain ⟨slot, hmem, hslot⟩ := List.any_eq_true.mp h
  obtain ⟨place, hplace⟩ := List.mem_iff_getElem?.mp hmem
  have htask : s.task? place = some slot.task := task?_eq_some_iff.mpr ⟨slot, hplace, rfl⟩
  have hcrew := hs.crew htask
  cases htask' : slot.task with
  | launched o l =>
      rw [htask'] at hcrew hslot htask
      cases hcrew
      obtain ⟨ho, hl⟩ := Bool.and_eq_true_iff.mp hslot
      exact ⟨htask, (beq_iff_eq.mp ho).symm, (beq_iff_eq.mp hl).symm⟩
  | boot | launch | observer | loop | check | fetch | shutdown | gone =>
      rw [htask'] at hslot
      exact absurd hslot nofun

theorem modify_append_of_lt {α : Type} {f : α → α} {l : List α} {id : Nat} (h : id < l.length)
    (a : α) : (l ++ [a]).modify id f = l.modify id f ++ [a] := by
  induction l generalizing id with
  | nil => exact absurd h (Nat.not_lt_zero id)
  | cons first rest ih =>
      cases id with
      | zero => rfl
      | succ id => exact congrArg (List.cons first) (ih (Nat.lt_of_succ_lt_succ h))

/-- A new task behind the others is not touched by what takes one of their places. -/
theorem setTask_addTask {s : System} {id : Nat} (h : id < s.slots.length) (t new : Task) :
    (s.addTask t).setTask id new = (s.setTask id new).addTask t :=
  congrArg (fun slots => { s with slots }) (modify_append_of_lt h _)

/-- The launch returns: observer and loop take their places. -/
theorem Manned.launch {s : System} (hs : Manned s) {p : Polling.System} {result : Option Status}
    (hp : p.Reachable) (htask : s.task? 0 = some (.launch (.ended result))) :
    Manned ((({ s with polling := p }.addTask (.observer s.cell.subscribe .watching)).addTask
      (.loop s.settings false .spawned)).setTask 0
        (.launched s.slots.length (s.slots.length + 1))) := by
  have hlength : s.slots.length = 1 := hs.alone htask
  have hrest : ∀ {id t}, (s.setTask 0 (.launched 1 2)).task? id = some t → t = .launched 1 2 := by
    intro id t h
    rcases task?_setTask_eq_some h with ⟨_, ht⟩ | ⟨hid, hold⟩
    · exact ht
    · have hlt := lt_length_of_task? hold
      omega
  have hreturned : Manned ({ s with polling := p }.setTask 0 (.launched 1 2)) :=
    (hs.replace hp (Nat.le_refl _)).putPlain .launched (fun _ => nofun) (fun _ => nofun)
      (fun _ _ => nofun)
  have hobserver : Manned (({ s with polling := p }.setTask 0 (.launched 1 2)).addTask
      (.observer s.cell.subscribe .watching)) := by
    refine hreturned.addTask _ ?_ ?_ (fun _ => nofun) ?_
    · rw [length_setTask, hlength]
      exact .observer
    · refine Or.inr ⟨fun phase h => ?_, fun _ => nofun⟩
      exact absurd (hrest h) nofun
    · intro sub phase heq
      cases heq
      exact ⟨Nat.le_refl _, fun id phase' h => absurd (hrest h) nofun⟩
  have hloop := hobserver.addTask (.loop s.settings false .spawned) ?_ ?_
    (fun _ => nofun) (fun _ _ => nofun)
  · have hfirst : 0 < ({ s with polling := p } : System).slots.length := hlength ▸ Nat.one_pos
    have hsecond : ∀ t, 0 < ({ s with polling := p }.addTask t).slots.length :=
      fun t => (length_addTask { s with polling := p } t).symm ▸ Nat.succ_pos _
    rw [hlength, setTask_addTask (hsecond _), setTask_addTask hfirst]
    exact hloop
  · rw [length_addTask, length_setTask, hlength]
    exact .loop
  · refine Or.inr ⟨fun phase h => ?_, fun _ => nofun⟩
    rcases task?_addTask_eq_some h with hold | ⟨_, hnew⟩
    · exact absurd (hrest hold) nofun
    · exact absurd hnew nofun

/-- The pieces of a shutdown. -/
theorem Manned.shutdown {s t : System} (hs : Manned s) {id : Nat} {phase : Shutdown}
    {effects : List Effect} (htask : s.task? id = some (.shutdown 1 2 phase))
    (h : Shutdown.Step s id 1 2 phase t effects) : Manned t := by
  cases h with
  | signal hloop => exact (hs.putLoop hloop).putShutdown nofun
  | join => exact hs.putShutdown nofun
  | relieve hp =>
      have hreach : ∀ {p seen}, (p = s.polling ∧ seen = [] ∨
          ∃ call, s.polling.apply (.abort call) = some (p, seen)) → p.Reachable := by
        rintro p seen (⟨rfl, _⟩ | ⟨call, hp⟩)
        · exact hs.reachable
        · exact hs.reachable.apply hp
      exact ((hs.markAborted 1).replace (hreach hp) (Nat.le_refl _)).putShutdown
        fun _ => duty?_markAborted_self s 1
  | stop hp =>
      exact (hs.replace (hs.reachable.apply hp) (Nat.le_refl _)).putShutdown
        fun _ => hs.relieved htask rfl
  | release hp =>
      exact (hs.replace (c := s.cell.release) (hs.reachable.apply hp) (Nat.le_refl _)).putShutdown
        fun _ => hs.relieved htask rfl

theorem Manned.begin {s : System} (hs : Manned s) {e : Event} {new : Task}
    (he : s.admits e = true) (hbegun : e.begun? = some new) : Manned (s.addTask new) := by
  cases e with
  | boot | check | fetch => exact absurd he nofun
  | launch =>
      cases Option.some.inj hbegun
      have hnil : s.slots = [] := List.isEmpty_iff.mp he
      refine hs.addTask _ ?_ (Or.inl hnil) (fun _ => nofun) (fun _ _ => nofun)
      rw [hnil]
      exact .launch
  | shutdown observer loop =>
      cases Option.some.inj hbegun
      obtain ⟨hreturned, rfl, rfl⟩ := hasLaunched_eq_true hs he
      refine hs.addTask _ .shutdown (Or.inr ⟨fun phase h => ?_, fun _ => nofun⟩) ?_
        (fun _ _ => nofun)
      · exact absurd (hreturned.symm.trans h) nofun
      · intro phase heq
        cases heq
        rfl
  | poller | set | spawnLoop | step | halt | deliver | drop | askToEnd | dropHandle | retainStatus
  | releaseStatus => exact absurd hbegun nofun

/-- A watch that has one launch at most and no tasks besides stays so. -/
theorem Manned.act {s t : System} {e : Event} {effects : List Effect} (hs : Manned s)
    (he : s.admits e = true) (h : s.Act e t effects) : Manned t := by
  cases h with
  | poller hp => exact hs.replace (hs.reachable.apply hp) (Nat.le_refl _)
  | set _ hturn => exact hs.replace hs.reachable hturn.version_le
  | begin hbegun => exact hs.begin he hbegun
  | spawnLoop => exact absurd he nofun
  | boot hplace htask hwrap hstep =>
      have hcrew := hs.crew (task?_of_slot hplace htask)
      rcases hwrap with rfl | rfl
      · exact absurd hcrew nofun
      · cases hcrew
        refine (hs.replace (reachable_of_bootStep hs.reachable hstep) ?_).put .launch
          (fun _ => hs.alone (task?_of_slot hplace htask)) (fun h => absurd h nofun)
          (fun h => absurd h nofun)
        cases hstep with
        | reported _ _ hturn => exact hturn.version_le
        | ask | failed | unrecognised | start | stop | started | reset => exact Nat.le_refl _
  | launched hplace htask hp =>
      cases hs.crew (task?_of_slot hplace htask)
      exact hs.launch (hs.reachable.apply hp) (task?_of_slot hplace htask)
  | observer hplace _ htask hstep =>
      have htask' := task?_of_slot hplace htask
      cases hs.crew htask'
      refine (hs.replace (reachable_of_observerStep hs.reachable hstep) (Nat.le_refl _)).put
        .observer (fun h => absurd h nofun) (fun h => absurd h nofun) fun heq => ?_
      cases heq
      refine ⟨?_, _, _, htask'⟩
      cases hstep with
      | look => exact Nat.le_refl _
      | close | start | stop | started | reset => exact hs.seen_le htask'
  | loop hplace htask _ hturn =>
      exact (hs.replace hs.reachable hturn.version_le).putLoop (task?_of_slot hplace htask)
  | check hplace htask => exact absurd (hs.crew (task?_of_slot hplace htask)) nofun
  | fetch hplace htask => exact absurd (hs.crew (task?_of_slot hplace htask)) nofun
  | shutdown hplace htask hstep =>
      have htask' := task?_of_slot hplace htask
      cases hs.crew htask'
      exact hs.shutdown htask' hstep
  | halt htask => exact (hs.putLoop htask).replace hs.reachable (Nat.le_refl _)
  | deliver htask hnext =>
      cases hs.crew htask with
      | launch =>
          obtain ⟨_, _, rfl⟩ := Option.map_eq_some_iff.mp hnext
          exact hs.put .launch (fun _ => hs.alone htask) (fun h => absurd h nofun)
            (fun h => absurd h nofun)
      | @loop settings halting phase =>
          cases phase with
          | asking due =>
              cases Option.some.inj hnext
              exact hs.putLoop htask
          | spawned | waiting | answered | ended => exact absurd hnext nofun
      | launched | observer | shutdown | gone => exact absurd hnext nofun
  | @drop id handles _ _ _ _ _ _ _ _ _ hp =>
      have hreplaced := hs.replace (c := { s.cell with handles := handles })
        (hs.reachable.run hp) (Nat.le_refl _)
      exact hreplaced.putPlain .gone (fun _ => nofun) (fun _ => nofun) (fun _ _ => nofun)
  | askToEnd htask => exact hs.putLoop htask
  | dropHandle htask hp =>
      exact (hs.replace (c := s.cell.release) (hs.reachable.apply hp) (Nat.le_refl _)).putLoop htask
  | retainStatus | releaseStatus => exact hs.replace hs.reachable (Nat.le_refl _)

/-! ## The launch -/

/-- The launch stands at this point of its check; one that has not begun stands at its
beginning. -/
def Boots (s : System) (phase : Boot) : Prop :=
  s.task? 0 = some (.launch phase) ∨ (s.slots = [] ∧ phase = .ready)

/-- Where a launch that goes on behind a transition comes from. -/
inductive Launches (s : System) (e : Event) (t : System) (effects : List Effect) : Boot → Prop where
  | steps {before phase : Boot} (hbefore : s.Boots before)
      (hstep : Boot.Step s 0 before t.polling t.cell phase effects) : Launches s e t effects phase
  | stays {phase : Boot} (hbefore : s.Boots phase) (hbeside : Beside s e t effects)
      (hvalue : (∃ v, e = .set v) ∨ t.cell.value = s.cell.value) : Launches s e t effects phase
  | answered {reply : Reply} (hbefore : s.Boots .waiting) (hpolling : t.polling = s.polling)
      (hcell : t.cell = s.cell) (heffects : effects = []) :
      Launches s e t effects (.answered reply)

theorem length_le_of_act {s t : System} {e : Event} {effects : List Effect}
    (h : s.Act e t effects) : s.slots.length ≤ t.slots.length := by
  cases h with
  | begin =>
      rw [length_addTask]
      exact Nat.le_succ _
  | spawnLoop => exact Nat.le_trans (Nat.le_succ _) (Nat.le_of_eq (length_addTask s _).symm)
  | launched =>
      rw [length_setTask, length_addTask, length_addTask]
      exact Nat.le_add_right _ 2
  | shutdown _ _ hstep =>
      refine Nat.le_of_eq (Eq.symm ?_)
      cases hstep with
      | signal => exact (length_setTask _ _ _).trans (length_setTask _ _ _)
      | relieve => exact (length_setTask _ _ _).trans (length_markAborted s _)
      | join | stop | release => exact length_setTask _ _ _
  | boot | observer | loop | check | fetch | deliver | drop | askToEnd | dropHandle | halt =>
      exact Nat.le_of_eq (length_setTask _ _ _).symm
  | poller | set | retainStatus | releaseStatus => exact Nat.le_refl _

/-- Before the launch there is no task that could do anything. -/
theorem launches_of_nil {s t : System} {e : Event} {effects : List Effect} (h : s.Act e t effects)
    (hnil : t.slots = []) : Launches s e t effects .ready := by
  have hbefore : s.slots = [] := by
    have hlength := length_le_of_act h
    rw [hnil] at hlength
    exact List.length_eq_zero_iff.mp (Nat.le_zero.mp hlength)
  have hnone : ∀ {id : Nat} {slot : Slot}, s.slots[id]? ≠ some slot := by
    intro id slot
    rw [hbefore]
    exact nofun
  have htask : ∀ {id : Nat} {task : Task}, s.task? id ≠ some task := by
    intro id task htask
    obtain ⟨slot, hslot, _⟩ := task?_eq_some_iff.mp htask
    exact hnone hslot
  have hstays : ∀ {e : Event} {t : System} {effects : List Effect}, Beside s e t effects →
      ((∃ v, e = .set v) ∨ t.cell.value = s.cell.value) → Launches s e t effects .ready :=
    fun hbeside hvalue => .stays (Or.inr ⟨hbefore, rfl⟩) hbeside hvalue
  cases h with
  | poller hp => exact hstays (.of_poller hp rfl) (Or.inr rfl)
  | set _ hturn honly =>
      exact hstays ⟨Or.inl ⟨rfl, rfl⟩, hturn, reset_not_mem honly⟩ (Or.inl ⟨_, rfl⟩)
  | retainStatus | releaseStatus =>
      exact hstays (.of_still rfl rfl rfl rfl (Or.inl rfl)) (Or.inr rfl)
  | begin | spawnLoop => exact absurd hnil (List.append_ne_nil_of_right_ne_nil _ nofun)
  | boot hslot | launched hslot | observer hslot | loop hslot | check hslot | fetch hslot
  | shutdown hslot | drop hslot => exact absurd hslot hnone
  | halt hloop | deliver hloop | askToEnd hloop | dropHandle hloop => exact absurd hloop htask

/-- A launch that goes on is the only task. -/
theorem Manned.only {s : System} (hs : Manned s) {phase : Boot}
    (hlaunch : s.task? 0 = some (.launch phase)) {id : Nat} {t : Task} (h : s.task? id = some t) :
    id = 0 ∧ t = .launch phase := by
  have hlength := hs.alone hlaunch
  have hid : id = 0 := by
    have hlt := lt_length_of_task? h
    omega
  rw [hid, hlaunch] at h
  exact ⟨hid, (Option.some.inj h).symm⟩

/-- A piece of a shutdown touches itself and the loop. -/
theorem task?_of_shutdownStep {s t : System} {id observer loop place : Nat} {phase : Shutdown}
    {task : Task} {effects : List Effect} (h : Shutdown.Step s id observer loop phase t effects)
    (htask : t.task? place = some task) :
    s.task? place = some task ∨ (∃ next, task = .shutdown observer loop next) ∨
      ∃ settings halting phase', task = .loop settings halting phase' := by
  cases h with
  | signal =>
      rcases task?_setTask_eq_some htask with ⟨_, heq⟩ | ⟨_, hfirst⟩
      · exact Or.inr (Or.inl ⟨_, heq⟩)
      · rcases task?_setTask_eq_some hfirst with ⟨_, heq⟩ | ⟨_, hold⟩
        · exact Or.inr (Or.inr ⟨_, _, _, heq⟩)
        · exact Or.inl hold
  | relieve =>
      rcases task?_setTask_eq_some htask with ⟨_, heq⟩ | ⟨_, hold⟩
      · exact Or.inr (Or.inl ⟨_, heq⟩)
      · exact Or.inl (task?_markAborted_eq_some hold)
  | join | stop | release =>
      rcases task?_setTask_eq_some htask with ⟨_, heq⟩ | ⟨_, hold⟩
      · exact Or.inr (Or.inl ⟨_, heq⟩)
      · exact Or.inl hold

theorem launches_of_act {s t : System} {e : Event} {effects : List Effect} {phase : Boot}
    (hs : Manned s) (he : s.admits e = true) (h : s.Act e t effects)
    (htask : t.task? 0 = some (.launch phase)) : Launches s e t effects phase := by
  -- nothing happens to another task, for there is none
  have hother : ∀ {id : Nat} {task new : Task} {p : Polling.System} {c : Cell},
      s.task? id = some task → (∀ before, task ≠ .launch before) → (∀ next, new ≠ .launch next) →
      ({ s with polling := p, cell := c }.setTask id new).task? 0 ≠ some (.launch phase) := by
    intro id task new p c hold hkind hnew hput
    rcases task?_setTask_eq_some hput with ⟨_, heq⟩ | ⟨_, hlaunch⟩
    · exact hnew phase heq.symm
    · exact hkind phase (hs.only hlaunch hold).2
  cases h with
  | poller hp => exact .stays (Or.inl htask) (.of_poller hp rfl) (Or.inr rfl)
  | set _ hturn honly =>
      exact .stays (Or.inl htask) ⟨Or.inl ⟨rfl, rfl⟩, hturn, reset_not_mem honly⟩ (Or.inl ⟨_, rfl⟩)
  | begin hbegun =>
      cases e with
      | launch =>
          have hnil : s.slots = [] := List.isEmpty_iff.mp he
          cases Option.some.inj hbegun
          rcases task?_addTask_eq_some htask with hold | ⟨_, heq⟩
          · have hlt := lt_length_of_task? hold
            rw [hnil] at hlt
            exact absurd hlt (Nat.not_lt_zero _)
          · cases heq
            exact .stays (Or.inr ⟨hnil, rfl⟩) (.of_still rfl rfl rfl rfl (Or.inl rfl)) (Or.inr rfl)
      | shutdown observer loop =>
          cases Option.some.inj hbegun
          rcases task?_addTask_eq_some htask with hold | ⟨_, heq⟩
          · exact absurd ((hasLaunched_eq_true hs he).1.symm.trans hold) nofun
          · exact absurd heq nofun
      | boot | check | fetch => exact absurd he nofun
      | poller | set | spawnLoop | step | halt | deliver | drop | askToEnd | dropHandle
      | retainStatus | releaseStatus => exact absurd hbegun nofun
  | spawnLoop => exact absurd he nofun
  | boot hplace hphase hwrap hstep =>
      have hcrew := hs.crew (task?_of_slot hplace hphase)
      rcases hwrap with rfl | rfl
      · exact absurd hcrew nofun
      · cases hcrew
        rcases task?_setTask_eq_some htask with ⟨_, heq⟩ | ⟨hne, _⟩
        · cases heq
          exact .steps (Or.inl (task?_of_slot hplace hphase)) hstep
        · exact absurd rfl hne
  | launched hplace hphase =>
      cases hs.crew (task?_of_slot hplace hphase)
      rcases task?_setTask_eq_some htask with ⟨_, heq⟩ | ⟨hne, _⟩
      · exact absurd heq nofun
      · exact absurd rfl hne
  | observer hplace _ hphase =>
      exact absurd htask (hother (task?_of_slot hplace hphase) (fun _ => nofun) (fun _ => nofun))
  | loop hplace hphase =>
      exact absurd htask (hother (task?_of_slot hplace hphase) (fun _ => nofun) (fun _ => nofun))
  | check hplace hphase => exact absurd (hs.crew (task?_of_slot hplace hphase)) nofun
  | fetch hplace hphase => exact absurd (hs.crew (task?_of_slot hplace hphase)) nofun
  | shutdown hplace hphase hstep =>
      rcases task?_of_shutdownStep hstep htask with hold | ⟨_, heq⟩ | ⟨_, _, _, heq⟩
      · exact absurd (hs.only hold (task?_of_slot hplace hphase)).2 nofun
      · exact absurd heq nofun
      · exact absurd heq nofun
  | halt hloop => exact absurd htask (hother hloop (fun _ => nofun) (fun _ => nofun))
  | deliver hwaits hnext =>
      have hcrew := hs.crew hwaits
      cases hcrew with
      | @launch before =>
          obtain ⟨after, hafter, rfl⟩ := Option.map_eq_some_iff.mp hnext
          rcases task?_setTask_eq_some htask with ⟨_, heq⟩ | ⟨hne, _⟩
          · cases heq
            cases before with
            | waiting =>
                cases Option.some.inj hafter
                exact .answered (Or.inl hwaits) rfl rfl rfl
            | ready | answered | acting | starting | stopped | ended => exact absurd hafter nofun
          · exact absurd rfl hne
      | @loop settings halting before =>
          cases before with
          | asking due =>
              cases Option.some.inj hnext
              exact absurd htask (hother hwaits (fun _ => nofun) (fun _ => nofun))
          | spawned | waiting | answered | ended => exact absurd hnext nofun
      | launched | observer | shutdown | gone => exact absurd hnext nofun
  | @drop id handles slot _ _ _ hplace =>
      rcases task?_setTask_eq_some htask with ⟨_, heq⟩ | ⟨hne, hold⟩
      · exact absurd heq nofun
      · exact absurd (hs.only hold (task?_of_slot hplace rfl)).1.symm hne
  | askToEnd hloop => exact absurd htask (hother hloop (fun _ => nofun) (fun _ => nofun))
  | dropHandle hloop => exact absurd htask (hother hloop (fun _ => nofun) (fun _ => nofun))
  | retainStatus | releaseStatus =>
      exact .stays (Or.inl htask) (.of_still rfl rfl rfl rfl (Or.inl rfl)) (Or.inr rfl)

/-- A launch that goes on took its next piece or its reply, or was left alone. -/
theorem boots_of_act {s t : System} {e : Event} {effects : List Effect} {phase : Boot}
    (hs : Manned s) (he : s.admits e = true) (h : s.Act e t effects) (hboots : t.Boots phase) :
    Launches s e t effects phase := by
  rcases hboots with htask | ⟨hnil, rfl⟩
  · exact launches_of_act hs he h htask
  · exact launches_of_nil h hnil

/-! ## The observer -/

/-- Where an observer on duty behind a transition comes from. -/
inductive Tends (s : System) (e : Event) (t : System) (effects : List Effect) :
    Subscription → Observer → Prop where
  | steps {sub sub' : Subscription} {before phase : Observer}
      (hduty : s.duty? 1 = some (sub, before))
      (hstep : Observer.Step s sub before t.polling sub' phase effects) (hcell : t.cell = s.cell) :
      Tends s e t effects sub' phase
  | stays {sub : Subscription} {phase : Observer} (hduty : s.duty? 1 = some (sub, phase))
      (hbeside : Beside s e t effects) : Tends s e t effects sub phase

/-- An observer on duty took its next piece, or was left alone. -/
theorem duty_of_act {s t : System} {e : Event} {effects : List Effect} {sub : Subscription}
    {phase : Observer} (hs : Manned s) (hlaunch : ∀ before, s.task? 0 ≠ some (.launch before))
    (he : s.admits e = true) (h : s.Act e t effects) (hduty : t.duty? 1 = some (sub, phase)) :
    Tends s e t effects sub phase := by
  have hother : ∀ {u : System} {id : Nat} {new : Task},
      (u.setTask id new).duty? 1 = some (sub, phase) → (∀ sub phase, new ≠ .observer sub phase) →
      u.duty? 1 = some (sub, phase) := by
    intro u id new hput hnew
    rcases duty?_setTask_eq_some hput with ⟨_, heq, _⟩ | ⟨_, hold⟩
    · exact absurd heq (hnew sub phase)
    · exact hold
  cases h with
  | poller hp => exact .stays hduty (.of_poller hp rfl)
  | set _ hturn honly =>
      exact .stays hduty ⟨Or.inl ⟨rfl, rfl⟩, hturn, reset_not_mem honly⟩
  | begin hbegun =>
      rcases duty?_addTask_eq_some hduty with hold | ⟨_, hnew⟩
      · refine .stays hold (.of_still ?_ rfl rfl rfl (Or.inl rfl))
        cases e with
        | poller | dropHandle => exact absurd hbegun nofun
        | set | boot | launch | check | fetch | spawnLoop | step | halt | deliver | drop
        | askToEnd | shutdown | retainStatus | releaseStatus => rfl
      · rw [hnew] at hbegun
        cases e with
        | boot | launch | check | fetch | shutdown => exact absurd hbegun nofun
        | poller | set | spawnLoop | step | halt | deliver | drop | askToEnd | dropHandle
        | retainStatus | releaseStatus => exact absurd hbegun nofun
  | spawnLoop => exact absurd he nofun
  | boot hplace htask hwrap =>
      have hcrew := hs.crew (task?_of_slot hplace htask)
      rcases hwrap with rfl | rfl
      · exact absurd hcrew nofun
      · cases hcrew
        exact absurd (task?_of_slot hplace htask) (hlaunch _)
  | launched hplace htask =>
      cases hs.crew (task?_of_slot hplace htask)
      exact absurd (task?_of_slot hplace htask) (hlaunch _)
  | @observer _ slot before _ phase' _ _ _ hplace _ htask hstep =>
      cases hs.crew (task?_of_slot hplace htask)
      rcases duty?_setTask_eq_some hduty with ⟨_, heq, slot', hplace', hfree⟩ | ⟨hne, _⟩
      · cases heq
        cases Option.some.inj (hplace.symm.trans hplace')
        have hslot' : slot = ⟨.observer before phase', false⟩ := by rw [← htask, ← hfree]
        exact .steps (duty?_eq_some_iff.mpr (hslot' ▸ hplace)) hstep rfl
      · exact absurd rfl hne
  | loop _ _ _ hturn hreset =>
      exact .stays (hother hduty (fun _ _ => nofun)) ⟨Or.inl ⟨rfl, rfl⟩, hturn, hreset⟩
  | check hplace htask => exact absurd (hs.crew (task?_of_slot hplace htask)) nofun
  | fetch hplace htask => exact absurd (hs.crew (task?_of_slot hplace htask)) nofun
  | shutdown hplace htask hstep =>
      have hlate := task?_of_slot hplace htask
      cases hs.crew hlate
      cases hstep with
      | signal =>
          have hold := hother (hother hduty (fun _ _ => nofun)) (fun _ _ => nofun)
          exact .stays hold (.of_still rfl rfl rfl rfl (Or.inr ⟨_, rfl⟩))
      | join =>
          exact .stays (hother hduty (fun _ _ => nofun)) (.of_still rfl rfl rfl rfl (Or.inl rfl))
      | relieve =>
          have hold := hother hduty (fun _ _ => nofun)
          exact absurd ((duty?_markAborted_self s 1).symm.trans hold) nofun
      | stop | release =>
          have hold := hother hduty (fun _ _ => nofun)
          exact absurd ((hs.relieved hlate rfl).symm.trans hold) nofun
  | halt =>
      exact .stays (hother hduty (fun _ _ => nofun)) (.of_still rfl rfl rfl rfl (Or.inl rfl))
  | deliver htask hnext =>
      refine .stays (hother hduty ?_) (.of_still rfl rfl rfl rfl (Or.inl rfl))
      rintro sub phase rfl
      cases hs.crew htask with
      | launch => exact absurd htask (hlaunch _)
      | @loop settings halting before => cases before <;> exact absurd hnext nofun
      | launched | observer | shutdown | gone => exact absurd hnext nofun
  | @drop id _ slot _ _ _ hplace hsuspended hloop hshutdown _ hp =>
      have htask := task?_of_slot hplace rfl
      rcases duty?_setTask_eq_some hduty with ⟨_, heq, _⟩ | ⟨hne, _⟩
      · exact absurd heq nofun
      · -- only an observer can be dropped, and there is one place for it
        have hcrew := hs.crew htask
        cases hdropped : slot.task with
        | observer =>
            rw [hdropped] at hcrew
            cases hcrew
            exact absurd rfl hne
        | launch =>
            rw [hdropped] at hcrew htask
            cases hcrew
            exact absurd htask (hlaunch _)
        | loop => exact absurd hdropped (hloop _ _ _)
        | shutdown => exact absurd hdropped (hshutdown _ _ _)
        | boot | check | fetch =>
            rw [hdropped] at hcrew
            exact absurd hcrew nofun
        | launched | gone =>
            rw [hdropped] at hsuspended
            exact absurd hsuspended nofun
  | askToEnd =>
      exact .stays (hother hduty (fun _ _ => nofun)) (.of_still rfl rfl rfl rfl (Or.inr ⟨_, rfl⟩))
  | @dropHandle _ _ _ _ p seen _ hp =>
      obtain ⟨hsame, hreset⟩ := plain_map_poller seen
      refine .stays (hother hduty (fun _ _ => nofun))
        ⟨Or.inr ⟨_, _, rfl, hp⟩, .still rfl rfl hsame, ?_⟩
      rw [List.mem_cons, not_or]
      exact ⟨nofun, hreset⟩
  | retainStatus | releaseStatus =>
      exact .stays hduty (.of_still rfl rfl rfl rfl (Or.inl rfl))

end System

end AlarmMonitor.Watch
