import AlarmMonitor.Proofs.Polling.Configuration
import AlarmMonitor.Proofs.Polling.Rhythm

/-!
# The schedule of the timer

Where nobody calls for single cycles, the cycles of a session keep the distance of the interval that
was configured where its timer lay down, and none of them is skipped.

* `Task.Rested`, `System.rested_of_run`: a timer that sleeps will find the last request of its
  session far enough behind;
* `System.Sleeps`: nothing moves the end of a sleep;
* `System.timer_keeps_schedule`: what comes of it over a run.
-/

set_option autoImplicit false

namespace AlarmMonitor.Polling

/-! ## How far the last request is behind -/

/-- While the session runs, its last request is at least the floor behind the instant. -/
def State.Clear (s : State) (session instant : Nat) : Prop :=
  s.running = true → s.session = session →
    ∀ last, s.lastCycle = some last → last + minInterval.nanos ≤ instant

theorem State.Clear.mono {s : State} {session instant later : Nat}
    (h : s.Clear session instant) (hle : instant ≤ later) : s.Clear session later :=
  fun hrun hsession last hlast => Nat.le_trans (h hrun hsession last hlast) hle

/-- A cycle that opens clear of the last request is not skipped. -/
theorem State.Clear.not_soon {s : State} {session now last : Nat} (h : s.Clear session now)
    (hrun : s.running = true) (hsession : s.session = session) (hlast : s.lastCycle = some last) :
    ¬ Duration.between last now < debounceWindow := by
  have hfar : last + minInterval.nanos ≤ now := h hrun hsession last hlast
  have hwindow : debounceWindow.nanos ≤ minInterval.nanos := by decide
  have hago : debounceWindow.nanos ≤ now - last := by omega
  exact Nat.not_lt_of_le hago

/-- A timer that sleeps will wake up clear of the last request of its session, one that is about to
open its cycle stands clear of it, and the cycle of a timer was not skipped. -/
def Task.Rested (s : State) (now : Nat) : Task → Prop
  | .timer session (.sleeping wakeAt) => s.Clear session wakeAt
  | .timer session (.cycling .ready) => s.Clear session now
  | .timer _ (.cycling (.ended outcome)) => outcome ≠ .debounced
  | _ => True

/-- A task stays rested while the requests of the session that it holds stay where they are. -/
theorem Task.Rested.congr {s u : State} {now later : Nat} {t : Task} (h : t.Rested s now)
    (hlater : now ≤ later)
    (hclear : ∀ session instant, t.Holds session → s.Clear session instant →
      u.Clear session instant) : t.Rested u later := by
  cases t with
  | timer n phase =>
      cases phase with
      | sleeping => exact hclear _ _ (Or.inr rfl) h
      | cycling cycle =>
          cases cycle with
          | ready => exact (hclear _ _ (Or.inr rfl) h).mono hlater
          | ended => exact h
          | waiting | answered | showing => trivial
      | spawned | checking | ended => trivial
  | start | poll | gone => trivial

/-- A deed of a rested task that is poised leaves it rested. -/
theorem Deed.rested {c : Context} {s : State} {t : Task} {p : Piece} (h : Deed c s t p)
    (hfloor : minInterval ≤ s.config.interval)
    (hpast : ∀ last, s.lastCycle = some last → last ≤ c.now)
    (hpoised : t.Poised s) (ht : t.Rested s c.now) : p.task.Rested p.state c.now := by
  cases h with
  | @cycle owner _ cycle _ _ _ htask hstep =>
      subst htask
      cases owner with
      | start | poll => trivial
      | timer n =>
          cases hstep with
          | debounced hrun hlast hsoon =>
              exact absurd hsoon (State.Clear.not_soon ht hrun hpoised.2 hlast)
          | notRunning | fetchFailed | discarded | processed => exact nofun
          | request | taken | shown => trivial
  | lieDown =>
      intro _ _ last hlast
      exact Nat.add_le_add (hpast last hlast) hfloor
  | wake hawake => exact State.Clear.mono ht hawake
  | undo hphase | release hphase => cases hphase <;> trivial
  | refuse | enter | firstOver | arm | pass | retire | scheduledOver => trivial

/-- A request is one of a task that holds the session which runs. -/
theorem Deed.holds_of_request {c : Context} {s : State} {t : Task} {p : Piece} {place : Nat}
    {endpoint : String} (h : Deed c s t p) (hrequest : .request place endpoint ∈ p.effects)
    (hpoised : t.Poised s) (ht : t.Faithful) : t.Holds s.session := by
  have hentered : Effect.Kind.request ∈ Effect.kinds p.effects :=
    Effect.kind_mem_kinds hrequest nofun
  have hturn := h.turn
  generalize Effect.kinds p.effects = ks at hturn hentered
  cases hturn with
  | @request owner =>
      have hcalled : owner ≠ .poll := by
        rintro rfl
        exact ht.called .ready rfl
      exact Owner.holds_of_poised hcalled hpoised .ready
  | start | timer | halt => exact absurd (List.mem_singleton.mp hentered) nofun
  | none => exact absurd hentered List.not_mem_nil

namespace System

/-- A session that runs behind a transition, and is held before it, ran before it. -/
theorem runs_of_runs {s t : System} {e : Event} {told : List Effect} {place session : Nat}
    {task : Task} (hreach : Reachable s) (h : s.apply e = some (t, told))
    (htask : s.task? place = some task) (hold : task.Holds session)
    (hrun : t.state.running = true) (hsession : t.state.session = session) :
    s.state.running = true ∧ s.state.session = session := by
  have hbegun : session ≤ s.state.session := (tenure_of_reachable hreach).bound htask hold
  have hepoch : s.state.epoch ≤ t.state.epoch := epoch_le_of_apply h
  rw [State.epoch_of_running hrun, hsession] at hepoch
  rcases Bool.eq_false_or_eq_true s.state.running with hruns | hstops
  · rw [State.epoch_of_running hruns] at hepoch
    exact ⟨hruns, by omega⟩
  · rw [State.epoch_of_stopped hstops] at hepoch
    omega

/-- A task that takes no step in a transition finds its session as clear as before: nobody else
begins a request in it. -/
theorem clear_of_kept {s t : System} {e : Event} {told : List Effect} {place session instant : Nat}
    {task : Task} (hreach : Reachable s) (hpoised : s.Poised) (hfaithful : s.Faithful)
    (h : s.apply e = some (t, told)) (he : e ≠ .step place) (htask : s.task? place = some task)
    (hold : task.Holds session) (hclear : s.state.Clear session instant) :
    t.state.Clear session instant := by
  intro hrun hsession last hlast
  obtain ⟨hruns, hsame⟩ := runs_of_runs hreach h htask hold hrun hsession
  cases (pulse_of_apply (sound_of_reachable hreach) h).1 with
  | ask _ _ _ heffects =>
      rw [heffects] at h
      obtain ⟨other, slot, p, rfl, hslot, hp, _, htold⟩ :=
        step_of_mem h List.mem_cons_self ⟨nofun, nofun⟩
      have hother : s.task? other = some slot.task := task?_eq_some_iff.mpr ⟨slot, hslot, rfl⟩
      have hold' : slot.task.Holds s.state.session :=
        (Task.deed_of_piece hp).holds_of_request (htold ▸ List.mem_cons_self)
          (hpoised other _ hother) (hfaithful other _ hother)
      rw [hsame] at hold'
      rw [(tenure_of_reachable hreach).unique hother htask hold' hold] at he
      exact absurd rfl he
  | rest hclock =>
      rw [hclock] at hlast
      exact absurd hlast nofun
  | still hclock =>
      rw [hclock] at hlast
      exact hclear hruns hsame last hlast

/-- Every task of the poller is rested. -/
def Rested (s : System) : Prop := ∀ place t, s.task? place = some t → t.Rested s.state s.now

theorem rested_new (hint : String) : (new hint).Rested := fun _ _ h => absurd h nofun

/-- The last request of a poller is not ahead. -/
theorem lastCycle_le_now {s : System} (hreach : Reachable s) {last : Nat}
    (hlast : s.state.lastCycle = some last) : last ≤ s.now := by
  obtain ⟨hint, events, effects, hrun⟩ := hreach
  have hclock := clock_of_run hrun
  exact hclock.le_now (hclock.asked last hlast)

/-- Every transition of an undisturbed run leaves all tasks rested. -/
theorem Rested.apply {s t : System} {e : Event} {told : List Effect} (hs : s.Rested)
    (hreach : Reachable s) (hpoised : s.Poised) (hfaithful : s.Faithful)
    (h : s.apply e = some (t, told)) : t.Rested := by
  have hsound := sound_of_reachable hreach
  have hnow : s.now ≤ t.now := (pulse_of_apply hsound h).2
  intro place task htask
  have hfate := fate_of_apply h place
  rw [htask] at hfate
  generalize hbefore : s.task? place = before at hfate
  cases hfate with
  | kept he =>
      exact (hs place task hbefore).congr hnow fun session instant hold hclear =>
        clear_of_kept hreach hpoised hfaithful h he hbefore hold hclear
  | called hcall => rcases hcall with ⟨_, rfl⟩ | ⟨_, _, rfl⟩ <;> trivial
  | spawned => trivial
  | @stepped slot _ he =>
      subst he
      obtain ⟨p, hdeed, rfl, _, hnext⟩ := deed_of_step hbefore h
      rw [Option.some.inj (htask.symm.trans hnext)]
      have hrested := hdeed.rested hsound.interval (fun last hlast => lastCycle_le_now hreach hlast)
        (hpoised place _ hbefore) (hs place _ hbefore)
      refine hrested.congr hnow fun session instant _ hclear => ?_
      intro hrun hsession last hlast
      rw [running_reap] at hrun
      rw [session_reap] at hsession
      rw [lastCycle_reap] at hlast
      exact hclear hrun hsession last hlast
  | delivered _ hnext =>
      obtain ⟨owner, session, endpoint, _, rfl⟩ := Task.answered_of_deliver hnext
      cases owner <;> trivial
  | @dropped before' =>
      rcases before'.dropped_cases with hgone | ⟨_, hguard⟩
      · rw [hgone]
        trivial
      · rw [hguard]
        trivial

/-- In an undisturbed run, all tasks stay rested. -/
theorem rested_of_run {hint : String} {events : List Event} {s : System} {effects : List Effect}
    (hheeds : (new hint).heeds undisturbed events = true)
    (hrun : (new hint).run events = some (s, effects)) : s.Rested := by
  have hall : (s.Poised ∧ s.Faithful) ∧ s.Rested := by
    refine heeding_induction (P := fun s => (s.Poised ∧ s.Faithful) ∧ s.Rested)
      (fun hint => ⟨⟨poised_new hint, faithful_new hint⟩, rested_new hint⟩) ?_ hheeds hrun
    intro s t e effects hreach hs hrule happly
    obtain ⟨hunbroken, hcall⟩ := undisturbed_iff.mp hrule
    exact ⟨⟨hs.1.1.apply hreach hunbroken happly, hs.1.2.apply hs.1.1 hcall happly⟩,
      hs.2.apply hreach hs.1.1 hs.1.2 happly⟩
  exact hall.2

/-! ## The end of a sleep -/

/-- A timer sleeps there until the instant, or was dropped in its sleep. -/
def Sleeps (s : System) (place session wakeAt : Nat) : Prop :=
  s.task? place = some (.timer session (.sleeping wakeAt)) ∨ s.task? place = some .gone

section

variable {s t : System} {place session wakeAt : Nat}

/-- Nothing but a step of its own moves the end of a sleep. -/
theorem Sleeps.apply {e : Event} {told : List Effect} (hs : s.Sleeps place session wakeAt)
    (h : s.apply e = some (t, told)) (he : e ≠ .step place) : t.Sleeps place session wakeAt := by
  have hfate := fate_of_apply h place
  unfold Sleeps at hs ⊢
  generalize s.task? place = before at hs hfate
  generalize t.task? place = behind at hfate ⊢
  cases hfate with
  | kept => exact hs
  | called | spawned => rcases hs with htask | htask <;> exact absurd htask nofun
  | stepped hstep => exact absurd hstep he
  | delivered _ hnext => rcases hs with htask | htask <;> (cases htask; exact absurd hnext nofun)
  | dropped => rcases hs with htask | htask <;> (cases htask; exact Or.inr rfl)

theorem Sleeps.run {events : List Event} {effects : List Effect}
    (hs : s.Sleeps place session wakeAt) (h : s.run events = some (t, effects))
    (hevents : .step place ∉ events) : t.Sleeps place session wakeAt := by
  induction events generalizing s effects with
  | nil =>
      cases h
      exact hs
  | cons e rest ih =>
      obtain ⟨u, first, later, happly, hrun, _⟩ := run_cons_eq_some_iff.mp h
      rw [List.mem_cons, not_or] at hevents
      exact ih (hs.apply happly fun he => hevents.1 he.symm) hrun hevents.2

/-- A timer does not wake up early. -/
theorem Sleeps.wakeAt_le {told : List Effect} (hs : s.Sleeps place session wakeAt)
    (h : s.apply (.step place) = some (t, told)) : wakeAt ≤ s.now := by
  rcases hs with htask | htask
  · obtain ⟨p, hdeed, _⟩ := deed_of_step htask h
    cases hdeed with
    | wake hawake => exact hawake
    | retire hphase =>
        cases hphase with
        | asleep hawake => exact hawake
    | lieDown hphase => rcases hphase with hphase | hphase <;> exact absurd hphase nofun
    | @cycle owner _ _ _ _ _ ht => cases owner <;> exact absurd ht nofun
  · obtain ⟨p, hdeed, _⟩ := deed_of_step htask h
    cases hdeed with
    | @cycle owner _ _ _ _ _ ht => cases owner <;> exact absurd ht nofun

/-- From the end of its sleep on, the timer of the poller can wake up and run its cycle. -/
theorem Sleeps.wakes (hs : s.Sleeps place session wakeAt) (hreach : Reachable s)
    (htimer : s.state.timer = some ⟨place, session⟩) (hawake : wakeAt ≤ s.now) :
    ∃ u, s.apply (.step place) = some (u, []) ∧
      u.task? place = some (.timer session (.cycling .ready)) := by
  have hrole : s.role place = .timer session :=
    (lifecycle_of_reachable hreach).role_timer_iff.mpr htimer
  have halive : s.isAlive = true := by
    rcases Bool.eq_false_or_eq_true s.isAlive with halive | hdead
    · exact halive
    · exact absurd ((timer_of_given_up hreach hdead).symm.trans htimer) nofun
  rcases hs.symm with htask | htask
  · obtain ⟨slot, hslot, hgone⟩ := task?_eq_some_iff.mp htask
    rw [role_of_getElem? hslot] at hrole
    have hother := (Slot.role_eq_timer_iff.mp hrole).1
    rw [hgone] at hother
    exact absurd hother nofun
  · obtain ⟨slot, hslot, hsleeping⟩ := task?_eq_some_iff.mp htask
    rw [role_of_getElem? hslot] at hrole
    have hfree : slot.aborted = false := (Slot.role_eq_timer_iff.mp hrole).2
    have hpiece : slot.task.piece (s.context place) s.state =
        some ⟨s.state, .timer session (.cycling .ready), [], []⟩ := by
      have hnow : wakeAt ≤ (s.context place).now := hawake
      have hheld : (s.context place).alive = true := halive
      rw [hsleeping]
      simp only [Task.piece, Timer.piece, if_pos hnow, if_pos hheld]
    have hact : s.act (.step place) = some (s.leave place _, []) :=
      step_eq_some_iff.mpr
        ⟨slot, _, hslot, by rw [hfree, Bool.false_and], hpiece, rfl, rfl⟩
    refine ⟨_, apply_eq_some_iff.mpr ⟨_, hact, rfl⟩, ?_⟩
    rw [task?_reap, task?_leave_self hslot]

/-- A timer lies down for the interval that is configured there. -/
theorem wakeAt_of_step {told : List Effect} (h : s.apply (.step place) = some (t, told))
    (ht : t.task? place = some (.timer session (.sleeping wakeAt))) :
    wakeAt = s.now + s.state.config.interval.nanos := by
  obtain ⟨u, hact, _⟩ := apply_eq_some_iff.mp h
  obtain ⟨slot, _, hslot, _⟩ := step_eq_some_iff.mp hact
  obtain ⟨p, hdeed, _, _, hnext⟩ := deed_of_step (task?_eq_some_iff.mpr ⟨slot, hslot, rfl⟩) h
  have hsleeps : p.task = .timer session (.sleeping wakeAt) := Option.some.inj (hnext.symm.trans ht)
  generalize slot.task = task at hdeed
  cases hdeed with
  | lieDown =>
      cases hsleeps
      rfl
  | @cycle owner => cases owner <;> exact absurd hsleeps nofun
  | undo hphase | release hphase => cases hphase <;> exact absurd hsleeps nofun
  | refuse | enter | firstOver | arm | pass | retire | wake | scheduledOver =>
      exact absurd hsleeps nofun

/-- The interval that a call of `configure` sets stays until the next one is set. -/
theorem interval_of_configured {u : System} {options : Options} {interval : Duration}
    {later : List Event} {told effects : List Effect}
    (h : s.apply (.configure options) = some (t, told)) (husable : options.usable = some interval)
    (hrun : t.run later = some (u, effects)) (hnone : (t.merged later).filterMap (·.usable) = []) :
    u.state.config.interval = interval := by
  have hset : t.state.config = (s.state.config.merge options).config := config_of_apply h
  rw [config_of_run hrun, (Config.mergeAll_fields _ _).2, hnone, hset,
    (Config.merge_fields _ _).2, husable]
  rfl

end

/-! ## The schedule -/

/-- Over every run without calls for single cycles, and with nothing in the middle of a stretch
between two waits: no cycle of a timer is skipped.  In front of a scheduled cycle its session shows
the end of the cycle before and then the timer, which lies down for the interval that is configured
there; the cycle begins no earlier than that interval behind the end.  Nothing moves the end of a
sleep, and from there on the timer of the poller can run its cycle; an interval that is set stays
until the next one, and is that of the next sleep.  And of no session two requests are on their
way. -/
theorem timer_keeps_schedule {hint : String} {events : List Event} {s : System}
    {effects : List Effect} (hheeds : (new hint).heeds undisturbed events = true)
    (hrun : (new hint).run events = some (s, effects)) :
    (∀ place session, s.task? place ≠ some (.timer session (.cycling (.ended .debounced)))) ∧
    (∀ first last instant session,
      (new hint).rhythm events = first ++ (instant, .began session true) :: last →
      ∃ early ended outcome lay interval,
        beatsOf session first =
          early ++ [(ended, .over session outcome), (lay, .slept session interval)] ∧
        minInterval ≤ interval ∧ ended ≤ lay ∧ lay + interval.nanos ≤ instant ∧
        interval ≤ .between ended instant) ∧
    (∀ place session wakeAt, s.task? place = some (.timer session (.sleeping wakeAt)) →
      ∀ later t told, s.run later = some (t, told) → .step place ∉ later →
        (∀ u seen, t.apply (.step place) = some (u, seen) → wakeAt ≤ t.now) ∧
        (t.state.timer = some ⟨place, session⟩ → wakeAt ≤ t.now →
          ∃ u, t.apply (.step place) = some (u, []) ∧
            u.task? place = some (.timer session (.cycling .ready)))) ∧
    (∀ options interval t told, s.apply (.configure options) = some (t, told) →
      options.usable = some interval →
      ∀ later u seen, t.run later = some (u, seen) →
        (t.merged later).filterMap (·.usable) = [] →
        ∀ place session wakeAt v shown, u.apply (.step place) = some (v, shown) →
          v.task? place = some (.timer session (.sleeping wakeAt)) →
          wakeAt = u.now + interval.nanos) ∧
    (∀ a b session ca cb, s.cycle? a = some ca → s.cycle? b = some cb →
      ca.session? = some session → cb.session? = some session → a = b) := by
  have hreach : Reachable s := ⟨hint, events, effects, hrun⟩
  refine ⟨?_, ?_, ?_, ?_, ?_⟩
  · intro place session htask
    have hrested : Task.Rested _ _ (.timer session (.cycling (.ended .debounced))) :=
      rested_of_run hheeds hrun place _ htask
    exact hrested rfl
  · intro first last instant session hrhythm
    obtain ⟨wakeAt, hawake, early, ended, outcome, lay, interval, hbeats, hended, rfl, hfloor⟩ :=
      asleep_of_rhythm hrun hrhythm
    refine ⟨early, ended, outcome, lay, interval, hbeats, hfloor, hended, hawake, ?_⟩
    have hago : interval.nanos ≤ instant - ended := by omega
    exact hago
  · intro place session wakeAt htask later t told hlater hnot
    have hsleeps : t.Sleeps place session wakeAt := Sleeps.run (Or.inl htask) hlater hnot
    exact ⟨fun u seen happly => hsleeps.wakeAt_le happly,
      fun htimer hawake => hsleeps.wakes (hreach.run hlater) htimer hawake⟩
  · intro options interval t told hconfigure husable later u seen hlater hnone place session wakeAt
      v shown happly hsleeps
    rw [wakeAt_of_step happly hsleeps, interval_of_configured hconfigure husable hlater hnone]
  · intro a b session ca cb ha hb hsa hsb
    exact one_request_of_session hreach (faithful_of_run hheeds hrun).2 ha hb hsa hsb

/-- The interval is set while the timer sleeps, which runs its cycle where it would have and then
sleeps for the new interval. -/
def reconfiguredAsleep : List Event :=
  [.start .none, .step 0, .step 0, .deliver 0 (.failure "refused"), .step 0, .step 0, .step 0,
    .step 0, .step 1, .tick (.ofMillis 1000), .configure ⟨none, some (.ofMillis 900)⟩,
    .tick (.ofMillis 4000), .step 1, .step 1, .tick (.ofMillis 30), .deliver 1 (.failure "refused"),
    .step 1, .step 1, .step 1, .tick (.ofMillis 900), .step 1, .step 1]

theorem timer_keeps_schedule_of_reconfiguredAsleep :
    ∃ s effects front, (new "").run reconfiguredAsleep = some (s, effects) ∧
      (new "").heeds undisturbed reconfiguredAsleep = true ∧
      (new "").rhythm reconfiguredAsleep = front ++ [(5930000000, .began 1 true)] ∧
      (∃ early ended outcome lay interval,
        beatsOf 1 front = early ++ [(ended, .over 1 outcome), (lay, .slept 1 interval)] ∧
        minInterval ≤ interval ∧ ended ≤ lay ∧ lay + interval.nanos ≤ 5930000000 ∧
        interval ≤ .between ended 5930000000) ∧
      s.task? 1 ≠ some (.timer 1 (.cycling (.ended .debounced))) := by
  have hrun : (new "").run reconfiguredAsleep = some (_, _) := rfl
  have hheeds : (new "").heeds undisturbed reconfiguredAsleep = true := by decide
  have hrhythm : (new "").rhythm reconfiguredAsleep =
      [(0, .began 1 false), (0, .over 1 .fetchFailed), (0, .slept 1 (.ofMillis 5000)),
        (5000000000, .began 1 true), (5030000000, .over 1 .fetchFailed),
        (5030000000, .slept 1 (.ofMillis 900))] ++ [(5930000000, .began 1 true)] := rfl
  obtain ⟨hnever, hspaced, _⟩ := timer_keeps_schedule hheeds hrun
  exact ⟨_, _, _, hrun, hheeds, hrhythm, hspaced _ _ _ _ hrhythm, hnever 1 1⟩

end System

end AlarmMonitor.Polling
