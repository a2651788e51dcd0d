import AlarmMonitor.Proofs.Polling.Cancellation
import AlarmMonitor.Proofs.Polling.Timekeeper

/-!
# A poller that nobody owns any more

When the last handle is dropped, nobody can call the poller any more, and what goes on is the work
of its timer, which holds the poller only for the time of a cycle.

* `System.unowned_of_apply`: nobody comes to own the poller again;
* `System.woken_of_ready`, `System.installed_of_answered`: whose cycles begin and whose replies are
  looked at in a poller that nobody owns;
* `System.Abandoned`: nobody owns the poller, and no timer that was told to end is inside a cycle;
* `Abandoned.timer_of_cycle`, `Abandoned.ready_before`: the only cycle is the one that the timer had
  begun, and no other one begins;
* `System.abandoned_poller_ends`: what goes on behind the last handle, and what lasts until then;
  `System.request_behind_last_handle`: where a request still begins there.
-/

set_option autoImplicit false

namespace AlarmMonitor.Polling

/-- The session and the endpoint of the request that a cycle has on its way. -/
def Cycle.request? : Cycle → Option (Nat × String)
  | .waiting session endpoint | .answered session endpoint _ => some (session, endpoint)
  | _ => none

/-- Is the request of the cycle still to come, or on its way? -/
def Cycle.isOpen : Cycle → Bool
  | .ready | .waiting .. | .answered .. => true
  | .showing .. | .ended _ => false

/-- A piece of a task belongs to a call only if the task is a call that is not over. -/
theorem Task.isPendingCall_of_piece {c : Context} {s : State} {t : Task} {p : Piece}
    (h : t.piece c s = some p) (hp : p.task.isPendingCall = true) : t.isPendingCall = true := by
  cases t with
  | start phase =>
      cases phase with
      | returned => exact absurd h nofun
      | entering | cycling | arming | leaving | cancelled => rfl
  | poll cycle =>
      cases cycle with
      | ended => exact absurd h nofun
      | ready | waiting | answered | showing => rfl
  | timer session phase =>
      obtain ⟨next, hnext⟩ := (Task.deed_of_piece h).timer_behind rfl
      rw [hnext] at hp
      exact absurd hp nofun
  | gone => exact absurd h nofun

/-- A task that takes a step is a call that is not over, or a timer. -/
theorem Task.timer_of_not_pending {c : Context} {s : State} {t : Task} {p : Piece}
    (h : t.piece c s = some p) (ht : t.isPendingCall = false) :
    ∃ session phase, t = .timer session phase := by
  cases t with
  | start phase =>
      cases phase with
      | returned => exact absurd h nofun
      | entering | cycling | arming | leaving | cancelled => exact absurd ht nofun
  | poll cycle =>
      cases cycle with
      | ended => exact absurd h nofun
      | ready | waiting | answered | showing => exact absurd ht nofun
  | timer session phase => exact ⟨session, phase, rfl⟩
  | gone => exact absurd h nofun

namespace System

variable {s t : System}

/-! ## Who owns the poller -/

theorem isOwned_eq_true_iff :
    s.isOwned = true ↔
      0 < s.handles ∨ ∃ place task, s.task? place = some task ∧ task.isPendingCall = true := by
  simp only [isOwned, Bool.or_eq_true, decide_eq_true_eq, List.any_eq_true]
  refine or_congr Iff.rfl ⟨?_, ?_⟩
  · rintro ⟨slot, hmem, hcall⟩
    obtain ⟨place, hplace⟩ := List.mem_iff_getElem?.mp hmem
    exact ⟨place, _, task?_eq_some_iff.mpr ⟨slot, hplace, rfl⟩, hcall⟩
  · rintro ⟨place, task, htask, hcall⟩
    obtain ⟨slot, hslot, rfl⟩ := task?_eq_some_iff.mp htask
    exact ⟨slot, List.mem_of_getElem? hslot, hcall⟩

/-- Whoever has made a call owns the poller until the call is over. -/
theorem isOwned_of_call {place : Nat} {slot : Slot} (hslot : s.slots[place]? = some slot)
    (hcall : slot.task.isPendingCall = true) : s.isOwned = true :=
  isOwned_eq_true_iff.mpr (Or.inr ⟨place, _, task?_eq_some_iff.mpr ⟨slot, hslot, rfl⟩, hcall⟩)

/-- The calls of a poller that nobody owns are over. -/
theorem over_of_unowned {place : Nat} {slot : Slot} (hfree : s.isOwned = false)
    (hslot : s.slots[place]? = some slot) : slot.task.isPendingCall = false :=
  Bool.eq_false_iff.mpr fun hcall =>
    absurd (hfree.symm.trans (isOwned_of_call hslot hcall)) Bool.false_ne_true

/-- Whoever takes a step in a poller that nobody owns is a timer. -/
theorem timer_of_unowned {place : Nat} {slot : Slot} {p : Piece} (hfree : s.isOwned = false)
    (hslot : s.slots[place]? = some slot)
    (hp : slot.task.piece (s.context place) s.state = some p) :
    ∃ session phase, slot.task = .timer session phase :=
  Task.timer_of_not_pending hp (over_of_unowned hfree hslot)

/-- A poller that somebody owns behind a transition was owned before. -/
theorem isOwned_of_apply {e : Event} {told : List Effect} (h : s.apply e = some (t, told))
    (howned : t.isOwned = true) : s.isOwned = true := by
  have hfate := fate_of_apply h
  obtain ⟨u, hact, rfl⟩ := apply_eq_some_iff.mp h
  have hcase : s.isOwned = true ∨ (u.handles = s.handles ∧
      ∀ call options, e ≠ .poll ∧ e ≠ .start options ∧ e ≠ .abort call) := by
    cases act_eq_some_iff.mp hact with
    | start hcaller | poll hcaller | configure hcaller | stop hcaller | clearHistory hcaller
    | retain hcaller => exact Or.inl hcaller
    | release hheld => exact Or.inl (isOwned_eq_true_iff.mpr (Or.inl hheld))
    | abort hslot hcall => exact Or.inl (isOwned_of_call hslot hcall)
    | step | deliver | drop | tick => exact Or.inr ⟨rfl, fun _ _ => ⟨nofun, nofun, nofun⟩⟩
  rcases hcase with hbefore | ⟨hhandles, hevent⟩
  · exact hbefore
  rcases isOwned_eq_true_iff.mp howned with hheld | ⟨place, task, htask, hcall⟩
  · rw [handles_reap, hhandles] at hheld
    exact isOwned_eq_true_iff.mpr (Or.inl hheld)
  · refine isOwned_eq_true_iff.mpr (Or.inr ⟨place, ?_⟩)
    have hplace := hfate place
    rw [htask] at hplace
    generalize hbefore : s.task? place = before at hplace ⊢
    generalize hbehind : some task = behind at hplace
    cases hplace with
    | kept => exact ⟨task, hbehind.symm, hcall⟩
    | called hcalled =>
        rcases hcalled with ⟨hpoll, _⟩ | ⟨options, hstart, _⟩
        · exact absurd hpoll (hevent 0 .none).1
        · exact absurd hstart (hevent 0 options).2.1
    | spawned =>
        cases hbehind
        exact absurd hcall nofun
    | stepped _ _ _ hp =>
        cases hbehind
        exact ⟨_, rfl, Task.isPendingCall_of_piece hp hcall⟩
    | delivered _ hnext =>
        obtain ⟨owner, session, endpoint, rfl, rfl⟩ := Task.answered_of_deliver hnext
        cases hbehind
        exact ⟨_, rfl, by cases owner <;> first | rfl | exact absurd hcall nofun⟩
    | @dropped before' _ hsuspended =>
        cases hbehind
        refine ⟨_, rfl, ?_⟩
        cases before' with
        | start phase => cases phase <;> first | rfl | exact absurd hcall nofun
        | poll | timer | gone => exact absurd hcall nofun

/-- Nobody comes to own a poller that nobody owns. -/
theorem unowned_of_apply {e : Event} {told : List Effect} (hfree : s.isOwned = false)
    (h : s.apply e = some (t, told)) : t.isOwned = false :=
  Bool.eq_false_iff.mpr fun howned =>
    absurd (hfree.symm.trans (isOwned_of_apply h howned)) Bool.false_ne_true

theorem unowned_of_run {events : List Event} {effects : List Effect} (hfree : s.isOwned = false)
    (h : s.run events = some (t, effects)) : t.isOwned = false :=
  run_induction (P := fun s => s.isOwned = false) unowned_of_apply hfree h

/-- A poller that nobody owns goes on in its period, or stays stopped. -/
theorem period_of_unowned {e : Event} {told : List Effect} (hfree : s.isOwned = false)
    (h : s.apply e = some (t, told)) :
    t.state.running = s.state.running ∧ t.state.session = s.state.session := by
  have hnot : ¬ s.isOwned = true := Bool.eq_false_iff.mp hfree
  obtain ⟨u, hact, rfl⟩ := apply_eq_some_iff.mp h
  rw [running_reap, session_reap]
  cases act_eq_some_iff.mp hact with
  | start hcaller | poll hcaller | configure hcaller | stop hcaller | clearHistory hcaller
  | retain hcaller => exact absurd hcaller hnot
  | release hheld => exact absurd (isOwned_eq_true_iff.mpr (Or.inl hheld)) hnot
  | abort hslot hcall => exact absurd (isOwned_of_call hslot hcall) hnot
  | deliver | drop | tick => exact ⟨rfl, rfl⟩
  | @step id slot p hslot _ hp =>
      obtain ⟨session, phase, htask⟩ := timer_of_unowned hfree hslot hp
      have hdeed := Task.deed_of_piece hp
      rw [htask] at hdeed
      have hstate : p.state.running = s.state.running ∧ p.state.session = s.state.session := by
        cases hdeed with
        | cycle _ hstep =>
            rcases hstep.asks_or_silent with ⟨_, _, _, _, rfl, _⟩ | ⟨_, hstate⟩
            · exact ⟨rfl, rfl⟩
            · rw [hstate]
              exact ⟨rfl, rfl⟩
        | lieDown | retire | wake | scheduledOver => exact ⟨rfl, rfl⟩
      exact hstate

/-- A cycle that has not begun, behind a transition of a poller that nobody owns, had not begun
before, or its timer has just woken up. -/
theorem woken_of_ready {e : Event} {told : List Effect} {place : Nat} (hfree : s.isOwned = false)
    (h : s.apply e = some (t, told)) (hready : t.cycle? place = some .ready) :
    s.cycle? place = some .ready ∨ e = .step place ∧
      ∃ session wakeAt, s.task? place = some (.timer session (.sleeping wakeAt)) := by
  have hnot : ¬ s.isOwned = true := Bool.eq_false_iff.mp hfree
  obtain ⟨task, htask, hin⟩ := Option.bind_eq_some_iff.mp hready
  have hfate := fate_of_apply h place
  rw [htask] at hfate
  generalize hbefore : s.task? place = before at hfate ⊢
  cases hfate with
  | kept => exact Or.inl (Option.bind_eq_some_iff.mpr ⟨task, hbefore, hin⟩)
  | called hcalled =>
      obtain ⟨u, hact, _⟩ := apply_eq_some_iff.mp h
      rcases hcalled with ⟨rfl, _⟩ | ⟨options, rfl, _⟩
      · cases act_eq_some_iff.mp hact with
        | poll howned => exact absurd howned hnot
      · cases act_eq_some_iff.mp hact with
        | start howned => exact absurd howned hnot
  | spawned => exact absurd hin nofun
  | @stepped slot p he hslot _ hp =>
      obtain ⟨session, phase, hphase⟩ := timer_of_unowned hfree hslot hp
      have hdeed := Task.deed_of_piece hp
      rw [hphase] at hdeed ⊢
      cases hdeed with
      | cycle _ hstep =>
          rw [Task.cycle?_task] at hin
          exact absurd (Option.some.inj hin) hstep.ne_ready
      | wake => exact Or.inr ⟨he, session, _, rfl⟩
      | lieDown | retire | scheduledOver => exact absurd hin nofun
  | delivered _ hnext =>
      obtain ⟨owner, n, endpoint, rfl, rfl⟩ := Task.answered_of_deliver hnext
      cases owner <;> exact absurd hin nofun
  | @dropped before' =>
      cases before' with
      | start phase => cases phase <;> exact absurd hin nofun
      | poll | timer | gone => exact absurd hin nofun

/-- Whoever looks at a reply in a poller that nobody owns is the installed timer. -/
theorem installed_of_answered {place n : Nat} {endpoint : String} {reply : Backend.Reply}
    {told : List Effect} (hreach : Reachable s) (hfree : s.isOwned = false)
    (hcycle : s.cycle? place = some (.answered n endpoint reply))
    (h : s.apply (.step place) = some (t, told)) :
    ∃ session, s.state.timer = some ⟨place, session⟩ := by
  obtain ⟨owner, htask⟩ := cycle?_eq_some_iff.mp hcycle
  obtain ⟨u, hact, _⟩ := apply_eq_some_iff.mp h
  obtain ⟨slot, p, hslot, hgoes, _⟩ := step_eq_some_iff.mp hact
  obtain ⟨_, hslot', hin⟩ := task?_eq_some_iff.mp htask
  cases Option.some.inj (hslot.symm.trans hslot')
  have hover := over_of_unowned hfree hslot
  rw [hin] at hover
  cases owner with
  | start | poll => exact absurd hover nofun
  | timer session =>
      -- a timer that was told to end is suspended with its reply
      have hkept : slot.aborted = false := by
        rw [hin] at hgoes
        simpa only [Owner.task, Task.isSuspended, Cycle.isWaiting, Bool.and_true] using hgoes
      refine ⟨session, (lifecycle_of_reachable hreach).role_timer_iff.mp ?_⟩
      rw [role_of_getElem? hslot]
      exact Slot.role_eq_timer_iff.mpr ⟨by rw [hin]; rfl, hkept⟩

/-! ## The work that is left -/

/-- Is no timer that was told to end still inside a cycle?  The runtime drops those that it catches
there. -/
def isCleared (s : System) : Bool :=
  s.slots.all fun slot => !(slot.aborted && slot.task.isCyclingTimer)

/-- Nobody owns the poller any more, and the only timer inside a cycle is the installed one. -/
structure Abandoned (s : System) : Prop where
  reachable : Reachable s
  unowned : s.isOwned = false
  installed : ∀ {place session cycle}, s.task? place = some (.timer session (.cycling cycle)) →
    s.state.timer = some ⟨place, session⟩

theorem abandoned_of_cleared (hreach : Reachable s) (hfree : s.isOwned = false)
    (hcleared : s.isCleared = true) : s.Abandoned := by
  refine ⟨hreach, hfree, fun {place session cycle} htask => ?_⟩
  obtain ⟨⟨task, aborted⟩, hslot, rfl⟩ := task?_eq_some_iff.mp htask
  refine (lifecycle_of_reachable hreach).role_timer_iff.mp ?_
  rw [role_of_getElem? hslot]
  cases aborted with
  | false => rfl
  | true => exact absurd (List.all_eq_true.mp hcleared _ (List.mem_of_getElem? hslot)) nofun

namespace Abandoned

theorem not_pending (hs : s.Abandoned) {place : Nat} {task : Task}
    (htask : s.task? place = some task) : task.isPendingCall = false := by
  obtain ⟨slot, hslot, rfl⟩ := task?_eq_some_iff.mp htask
  exact over_of_unowned hs.unowned hslot

/-- A cycle that has not ended belongs to the timer. -/
theorem timer_of_cycle (hs : s.Abandoned) {place : Nat} {cycle : Cycle}
    (hcycle : s.cycle? place = some cycle) (hgoes : ∀ outcome, cycle ≠ .ended outcome) :
    ∃ session, s.task? place = some (.timer session (.cycling cycle)) ∧
      s.state.timer = some ⟨place, session⟩ := by
  obtain ⟨owner, htask⟩ := cycle?_eq_some_iff.mp hcycle
  have hcall := hs.not_pending htask
  cases owner with
  | timer session => exact ⟨session, htask, hs.installed htask⟩
  | start => exact absurd hcall nofun
  | poll =>
      cases cycle with
      | ended outcome => exact absurd rfl (hgoes outcome)
      | ready | waiting | answered | showing => exact absurd hcall nofun

/-- Only one cycle has not ended. -/
theorem lone (hs : s.Abandoned) {a b : Nat} {first second : Cycle}
    (ha : s.cycle? a = some first) (hb : s.cycle? b = some second)
    (hfirst : ∀ outcome, first ≠ .ended outcome) (hsecond : ∀ outcome, second ≠ .ended outcome) :
    a = b := by
  obtain ⟨_, _, htimer⟩ := hs.timer_of_cycle ha hfirst
  obtain ⟨_, _, hother⟩ := hs.timer_of_cycle hb hsecond
  exact congrArg TimerRef.task (Option.some.inj (htimer.symm.trans hother))

/-- The installed timer of a poller that is not given up is inside a cycle. -/
theorem cycling_of_timer (hs : s.Abandoned) {place session : Nat} {phase : Timer}
    (htask : s.task? place = some (.timer session phase))
    (htimer : s.state.timer = some ⟨place, session⟩) : ∃ cycle, phase = .cycling cycle := by
  have halive : s.isAlive = true := by
    rcases Bool.eq_false_or_eq_true s.isAlive with halive | hdead
    · exact halive
    · exact absurd ((timer_of_given_up hs.reachable hdead).symm.trans htimer) nofun
  have hany : s.slots.any (·.task.isCyclingTimer) = true := by
    simpa only [isAlive, hs.unowned, Bool.false_or] using halive
  obtain ⟨slot, hmem, hcycling⟩ := List.any_eq_true.mp hany
  obtain ⟨other, hother⟩ := List.mem_iff_getElem?.mp hmem
  obtain ⟨n, cycle, hin⟩ : ∃ n cycle, slot.task = .timer n (.cycling cycle) := by
    unfold Task.isCyclingTimer at hcycling
    split at hcycling
    · exact ⟨_, _, ‹_›⟩
    · exact absurd hcycling Bool.false_ne_true
  have hfound : s.task? other = some (.timer n (.cycling cycle)) :=
    task?_eq_some_iff.mpr ⟨slot, hother, hin⟩
  cases (hs.installed hfound).symm.trans htimer
  cases hfound.symm.trans htask
  exact ⟨cycle, rfl⟩

/-- A timer that takes a step outside of a cycle ends. -/
theorem ends_of_step (hs : s.Abandoned) {place session : Nat} {phase : Timer} {told : List Effect}
    (htask : s.task? place = some (.timer session phase)) (hout : ∀ cycle, phase ≠ .cycling cycle)
    (h : s.apply (.step place) = some (t, told)) :
    t.task? place = some (.timer session .ended) ∧ told = [] := by
  have hnot : s.state.timer ≠ some ⟨place, session⟩ := fun htimer =>
    (hs.cycling_of_timer htask htimer).elim hout
  obtain ⟨u, hact, rfl⟩ := apply_eq_some_iff.mp h
  obtain ⟨slot, p, hslot, hfree, hp, rfl, rfl⟩ := step_eq_some_iff.mp hact
  obtain ⟨_, hslot', hin⟩ := task?_eq_some_iff.mp htask
  cases Option.some.inj (hslot.symm.trans hslot')
  have hstale : ¬ (s.isAlive = true ∧ s.state.running = true ∧ s.state.session = session) :=
    fun ⟨halive, hrun, hsession⟩ => hnot
      ((timekeeping_of_reachable hs.reachable).installed htask halive hrun hsession)
  rw [task?_reap, task?_leave_self hslot]
  have hcontext : (s.context place).alive = s.isAlive := rfl
  rw [hin] at hp
  cases phase with
  | spawned | checking =>
      simp only [Task.piece, Timer.piece, hcontext] at hp
      split at hp
      · rename_i halive
        split at hp
        · rename_i hinterval
          obtain ⟨hrun, hsession, _⟩ := State.timerInterval_eq_some_iff.mp hinterval
          exact absurd ⟨halive, hrun, hsession⟩ hstale
        · cases Option.some.inj hp
          exact ⟨rfl, rfl⟩
      · cases Option.some.inj hp
        exact ⟨rfl, rfl⟩
  | sleeping wakeAt =>
      simp only [Task.piece, Timer.piece, hcontext] at hp
      split at hp
      · split at hp
        · -- a timer that wakes up was not told to end, so it would be the installed one
          rename_i halive
          have hkept : slot.aborted = false := by
            rw [hin] at hfree
            simpa only [Task.isSuspended, Bool.and_true] using hfree
          have hwhole : s.slots[place]? = some ⟨.timer session (.sleeping wakeAt), false⟩ := by
            rw [hslot, ← hin, ← hkept]
          have hasleep : Timer.sleeping wakeAt ≠ .ended := fun h => by cases h
          obtain ⟨hrun, hsession⟩ := session_of_timer hs.reachable hwhole hasleep
          exact absurd ⟨halive, hrun, hsession⟩ hstale
        · cases Option.some.inj hp
          exact ⟨rfl, rfl⟩
      · cases hp
  | cycling cycle => exact absurd rfl (hout cycle)
  | ended => cases hp

/-- A timer that is inside a cycle behind a transition was inside one before. -/
theorem cycling_before (hs : s.Abandoned) {e : Event} {told : List Effect}
    {place session : Nat} {next : Cycle} (h : s.apply e = some (t, told))
    (htask : t.task? place = some (.timer session (.cycling next))) :
    ∃ cycle, s.task? place = some (.timer session (.cycling cycle)) := by
  rcases timer_of_fate h htask with ⟨phase, hbefore⟩ | ⟨_, call, _, hstart, _⟩
  · by_cases hin : ∃ cycle, phase = .cycling cycle
    · obtain ⟨cycle, rfl⟩ := hin
      exact ⟨cycle, hbefore⟩
    · have hout : ∀ cycle, phase ≠ .cycling cycle := fun cycle heq => hin ⟨cycle, heq⟩
      by_cases he : e = .step place
      · subst he
        obtain ⟨hended, _⟩ := hs.ends_of_step hbefore hout h
        exact absurd (hended.symm.trans htask) nofun
      · have hfate := fate_of_apply h place
        rw [htask, hbefore] at hfate
        generalize hsome : some (Task.timer session phase) = before at hfate
        generalize hbehind : some (Task.timer session (.cycling next)) = behind at hfate
        cases hfate with
        | kept =>
            cases hsome.trans hbehind.symm
            exact absurd rfl (hout next)
        | called | spawned => exact absurd hsome nofun
        | stepped hstep => exact absurd hstep he
        | delivered _ hnext =>
            obtain ⟨owner, n, endpoint, rfl, rfl⟩ := Task.answered_of_deliver hnext
            cases owner with
            | timer =>
                cases hsome
                exact absurd rfl (hout _)
            | start | poll => exact absurd hsome nofun
        | dropped =>
            cases hsome
            exact absurd hbehind nofun
  · exact absurd (hs.not_pending hstart) nofun

theorem apply (hs : s.Abandoned) {e : Event} {told : List Effect}
    (h : s.apply e = some (t, told)) : t.Abandoned := by
  refine ⟨hs.reachable.apply h, unowned_of_apply hs.unowned h,
    fun {place session next} htask => ?_⟩
  obtain ⟨cycle, hbefore⟩ := hs.cycling_before h htask
  have htimer := hs.installed hbefore
  have halive : t.isAlive = true := by
    obtain ⟨slot, hslot, hin⟩ := task?_eq_some_iff.mp htask
    exact isAlive_of_holdsPoller hslot (by rw [hin]; rfl)
  have hrun : t.state.running = true := by
    rw [(period_of_unowned hs.unowned h).1]
    exact (sound_of_reachable hs.reachable).running_of_timer htimer
  exact installed_of_apply hs.reachable htimer h halive hrun

theorem run (hs : s.Abandoned) {events : List Event} {effects : List Effect}
    (h : s.run events = some (t, effects)) : t.Abandoned :=
  run_induction (P := Abandoned) (fun hs happly => hs.apply happly) hs h

end Abandoned

/-! ## Requests and replies -/

/-- No cycle has a request to come or on its way. -/
def Spent (s : System) : Prop :=
  ∀ place cycle, s.cycle? place = some cycle → cycle.isOpen = false

/-- The request that the task at the place has on its way: its session and its endpoint. -/
def request? (s : System) (place : Nat) : Option (Nat × String) :=
  (s.cycle? place).bind Cycle.request?

/-- A request that is on its way behind a transition was so before, or its cycle had not begun. -/
theorem request_before {e : Event} {told : List Effect} {place : Nat} {r : Nat × String}
    (h : s.apply e = some (t, told)) (hrequest : t.request? place = some r) :
    s.request? place = some r ∨ s.cycle? place = some .ready := by
  obtain ⟨cycle, hcycle, hin⟩ := Option.bind_eq_some_iff.mp hrequest
  cases cycleOrigin_of_apply h hcycle with
  | ready => exact absurd hin nofun
  | kept _ hbefore => exact Or.inl (Option.bind_eq_some_iff.mpr ⟨_, hbefore, hin⟩)
  | answered _ hbefore => exact Or.inl (Option.bind_eq_some_iff.mpr ⟨_, hbefore, hin⟩)
  | stepped _ hbefore hstep =>
      cases hstep with
      | request => exact Or.inr hbefore
      | notRunning | debounced | fetchFailed | discarded | taken | shown | processed =>
          exact absurd hin nofun

/-- A request begins where a cycle opens, in a poller that runs, and is on its way behind. -/
theorem ready_of_request {e : Event} {told : List Effect} (h : s.apply e = some (t, told))
    (hkind : .request ∈ Effect.kinds told) :
    ∃ place session endpoint, e = .step place ∧ told = [.request place endpoint] ∧
      s.cycle? place = some .ready ∧ t.cycle? place = some (.waiting session endpoint) ∧
      s.state.running = true := by
  obtain ⟨x, hx, hxkind⟩ := List.mem_map.mp (List.mem_filter.mp hkind).1
  obtain ⟨place, slot, p, rfl, hslot, hp, rfl, rfl⟩ :=
    step_of_mem h hx (by rw [hxkind]; exact ⟨nofun, nofun⟩)
  obtain ⟨asking, endpoint, rfl⟩ : ∃ asking endpoint, x = .request asking endpoint := by
    cases x with
    | request asking endpoint => exact ⟨asking, endpoint, rfl⟩
    | note n => cases n <;> exact absurd hxkind nofun
    | «show» | configured | spawned | aborted => exact absurd hxkind nofun
  obtain ⟨owner, htask, _, hrun, _⟩ := Cycle.request_of_piece hp hx
  have hcycle : s.cycle? place = some .ready :=
    cycle?_eq_some_iff.mpr ⟨owner, task?_eq_some_iff.mpr ⟨slot, hslot, htask⟩⟩
  obtain ⟨state, next, hstep, hnext, _⟩ := step_of_cycle hcycle nofun h
  rcases hstep.asks_or_silent with ⟨_, rfl, _, _, _, htold⟩ | ⟨hother, _⟩
  · exact ⟨place, _, _, rfl, htold, hcycle, hnext, hrun⟩
  · rw [Effect.kinds_of_other hother] at hkind
    exact absurd hkind List.not_mem_nil

namespace Abandoned

/-- A cycle that has not begun behind a transition had not begun before. -/
theorem ready_before (hs : s.Abandoned) {e : Event} {told : List Effect} {place : Nat}
    (h : s.apply e = some (t, told)) (hready : t.cycle? place = some .ready) :
    s.cycle? place = some .ready := by
  rcases woken_of_ready hs.unowned h hready with hbefore | ⟨rfl, session, wakeAt, hasleep⟩
  · exact hbefore
  · obtain ⟨hended, _⟩ := hs.ends_of_step hasleep nofun h
    have hnone : t.cycle? place = none := by
      unfold cycle?
      rw [hended]
      rfl
    exact absurd (hnone.symm.trans hready) nofun

/-- In the course of a run no cycle begins that had not, and no request is on its way that was not,
but for that of a timer that had woken up before. -/
theorem course (hs : s.Abandoned) {events : List Event} {effects : List Effect} {place : Nat}
    (h : s.run events = some (t, effects)) :
    (t.cycle? place = some .ready → s.cycle? place = some .ready) ∧
    (∀ r, t.request? place = some r →
      s.request? place = some r ∨ s.cycle? place = some .ready) := by
  induction events generalizing s effects with
  | nil =>
      cases h
      exact ⟨id, fun _ => Or.inl⟩
  | cons e rest ih =>
      obtain ⟨u, _, _, happly, hrest, _⟩ := run_cons_eq_some_iff.mp h
      obtain ⟨hready, hrequest⟩ := ih (hs.apply happly) hrest
      refine ⟨fun hcycle => hs.ready_before happly (hready hcycle), fun r hr => ?_⟩
      rcases hrequest r hr with hflight | hcycle
      · exact request_before happly hflight
      · exact Or.inr (hs.ready_before happly hcycle)

/-- One request at most begins, and only if the timer had woken up before. -/
theorem requests_le (hs : s.Abandoned) {events : List Event} {effects : List Effect}
    (h : s.run events = some (t, effects)) :
    (Effect.kinds effects).count .request ≤ 1 ∧
    (.request ∈ Effect.kinds effects → ∃ place, s.cycle? place = some .ready) := by
  induction events generalizing s effects with
  | nil =>
      cases h
      exact ⟨Nat.zero_le 1, nofun⟩
  | cons e rest ih =>
      obtain ⟨u, told, later, happly, hrest, rfl⟩ := run_cons_eq_some_iff.mp h
      obtain ⟨hle, hwoken⟩ := ih (hs.apply happly) hrest
      rw [Effect.kinds_append, List.count_append, List.mem_append]
      by_cases hasks : .request ∈ Effect.kinds told
      · obtain ⟨place, session, endpoint, _, rfl, hready, hwaiting, _⟩ :=
          ready_of_request happly hasks
        -- the timer is in its request now, and no other cycle goes on
        have hnone : .request ∉ Effect.kinds later := by
          intro hmem
          obtain ⟨other, hother⟩ := hwoken hmem
          obtain rfl := hs.lone (hs.ready_before happly hother) hready nofun nofun
          exact absurd (hother.symm.trans hwaiting) nofun
        rw [List.count_eq_zero.mpr hnone]
        exact ⟨Nat.le_refl 1, fun _ => ⟨place, hready⟩⟩
      · rw [List.count_eq_zero.mpr hasks, Nat.zero_add]
        refine ⟨hle, fun hmem => ?_⟩
        obtain ⟨place, hplace⟩ := hwoken (hmem.resolve_left hasks)
        exact ⟨place, hs.ready_before happly hplace⟩

/-- A cycle that is open behind a transition was open before. -/
theorem open_before (hs : s.Abandoned) {e : Event} {told : List Effect} {place : Nat}
    {cycle : Cycle} (h : s.apply e = some (t, told)) (hcycle : t.cycle? place = some cycle)
    (hopen : cycle.isOpen = true) : ∃ old, s.cycle? place = some old ∧ old.isOpen = true := by
  cases cycleOrigin_of_apply h hcycle with
  | ready => exact ⟨_, hs.ready_before h hcycle, rfl⟩
  | kept _ hbefore => exact ⟨_, hbefore, hopen⟩
  | answered _ hbefore => exact ⟨_, hbefore, rfl⟩
  | stepped _ hbefore hstep =>
      cases hstep with
      | request => exact ⟨_, hbefore, rfl⟩
      | notRunning | debounced | fetchFailed | discarded | taken | shown | processed =>
          exact absurd hopen nofun

/-- Behind the reply to the request that is on its way, no cycle is open. -/
theorem spent_of_request (hs : s.Abandoned) {place : Nat} {r : Nat × String} {told : List Effect}
    (hrequest : s.request? place = some r) (h : s.apply (.step place) = some (t, told)) :
    t.Spent := by
  obtain ⟨cycle, hcycle, hflight⟩ := Option.bind_eq_some_iff.mp hrequest
  have hgoes : ∀ {c : Cycle}, c.isOpen = true → ∀ outcome, c ≠ .ended outcome := by
    rintro c hopen outcome rfl
    exact absurd hopen nofun
  have hopen : cycle.isOpen = true := by
    cases cycle with
    | ready | waiting | answered => rfl
    | showing | ended => exact absurd hflight nofun
  intro other next hnext
  rw [Bool.eq_false_iff]
  intro hstill
  obtain ⟨old, hold, hwas⟩ := hs.open_before h hnext hstill
  obtain rfl := hs.lone hold hcycle (hgoes hwas) (hgoes hopen)
  obtain ⟨state, behind, hstep, hbehind, _⟩ := step_of_cycle hcycle (hgoes hopen) h
  cases hbehind.symm.trans hnext
  cases hstep with
  | notRunning | debounced | request => exact absurd hflight nofun
  | fetchFailed | discarded | taken | shown | processed => exact absurd hstill nofun

/-- And none opens any more. -/
theorem spent_of_run (hs : s.Abandoned) {events : List Event} {effects : List Effect}
    (hspent : s.Spent) (h : s.run events = some (t, effects)) :
    .request ∉ Effect.kinds effects ∧ t.Spent := by
  constructor
  · intro hmem
    obtain ⟨place, hready⟩ := (hs.requests_le h).2 hmem
    exact absurd (hspent place _ hready) nofun
  · have hboth : t.Abandoned ∧ t.Spent := by
      refine run_induction (P := fun s => s.Abandoned ∧ s.Spent) ?_ ⟨hs, hspent⟩ h
      intro s t e effects ⟨hs, hspent⟩ happly
      refine ⟨hs.apply happly, fun place cycle hcycle => Bool.eq_false_iff.mpr fun hopen => ?_⟩
      obtain ⟨old, hold, hwas⟩ := hs.open_before happly hcycle hopen
      exact absurd ((hspent place old hold).symm.trans hwas) Bool.false_ne_true
    exact hboth.2

end Abandoned

/-! ## Timers that wake up beside others -/

/-- In the run, a timer wakes up while a timer that was told to end is inside a cycle. -/
def WakesBeside (s : System) (events : List Event) : Prop :=
  ∃ before place after u told session wakeAt, events = before ++ .step place :: after ∧
    s.run before = some (u, told) ∧ u.task? place = some (.timer session (.sleeping wakeAt)) ∧
    u.isCleared = false

theorem WakesBeside.cons {e : Event} {rest : List Event} {told : List Effect}
    (h : s.apply e = some (t, told)) (ht : t.WakesBeside rest) : s.WakesBeside (e :: rest) := by
  obtain ⟨before, place, after, u, seen, session, wakeAt, rfl, hrun, htask, hleft⟩ := ht
  exact ⟨e :: before, place, after, u, told ++ seen, session, wakeAt, rfl,
    run_cons_eq_some_iff.mpr ⟨t, told, seen, h, hrun, rfl⟩, htask, hleft⟩

/-- A request begins behind the last handle only if its timer had woken up before, or wakes up
while a timer that was told to end keeps the poller. -/
theorem woken_of_request {events : List Event} {effects : List Effect} (hreach : Reachable s)
    (hfree : s.isOwned = false) (h : s.run events = some (t, effects))
    (hkind : .request ∈ Effect.kinds effects) :
    (∃ place, s.cycle? place = some .ready) ∨ s.WakesBeside events := by
  induction events generalizing s effects with
  | nil =>
      cases h
      exact absurd hkind List.not_mem_nil
  | cons e rest ih =>
      obtain ⟨u, told, later, happly, hrest, rfl⟩ := run_cons_eq_some_iff.mp h
      rw [Effect.kinds_append, List.mem_append] at hkind
      rcases hkind with hnow | hlater
      · obtain ⟨place, _, _, _, _, hready, _⟩ := ready_of_request happly hnow
        exact Or.inl ⟨place, hready⟩
      rcases ih (hreach.apply happly) (unowned_of_apply hfree happly) hrest hlater with
        ⟨place, hready⟩ | hbeside
      · rcases woken_of_ready hfree happly hready with hbefore | ⟨rfl, session, wakeAt, hasleep⟩
        · exact Or.inl ⟨place, hbefore⟩
        · rcases Bool.eq_false_or_eq_true s.isCleared with hcleared | hleft
          · exact Or.inl ⟨place,
              (abandoned_of_cleared hreach hfree hcleared).ready_before happly hready⟩
          · exact Or.inr ⟨[], place, rest, s, [], session, wakeAt, rfl, rfl, hasleep, hleft⟩
      · exact Or.inr (.cons happly hbeside)

/-! ## The end of the timer -/

/-- Left to itself, the timer at the place comes to its end. -/
def EndsAlone (s : System) (place session : Nat) : Prop :=
  ∃ k t told, s.run (List.replicate k (.step place)) = some (t, told) ∧
    t.task? place = some (.timer session .ended)

theorem EndsAlone.before {place session : Nat} {told : List Effect}
    (h : s.apply (.step place) = some (t, told)) (ht : t.EndsAlone place session) :
    s.EndsAlone place session := by
  obtain ⟨k, u, later, hrun, hended⟩ := ht
  exact ⟨k + 1, u, told ++ later, run_cons_eq_some_iff.mpr ⟨t, told, later, h, hrun, rfl⟩, hended⟩

namespace Abandoned

/-- The timer takes the steps of its cycle. -/
theorem exists_step (hs : s.Abandoned) {place session : Nat} {cycle next : Cycle} {state : State}
    {effects : List Effect} (htask : s.task? place = some (.timer session (.cycling cycle)))
    (hstep : Cycle.Step s.hint s.now place s.state cycle (state, next, effects)) :
    ∃ t, s.apply (.step place) = some (t, effects) ∧
      t.task? place = some (.timer session (.cycling next)) := by
  have hrole : s.role place = .timer session :=
    (lifecycle_of_reachable hs.reachable).role_timer_iff.mpr (hs.installed htask)
  obtain ⟨slot, hslot, hin⟩ := task?_eq_some_iff.mp htask
  rw [role_of_getElem? hslot] at hrole
  have hfree : slot.aborted = false := (Slot.role_eq_timer_iff.mp hrole).2
  have hgoes : ∀ outcome, cycle ≠ .ended outcome := by
    rintro outcome rfl
    exact absurd hstep nofun
  have hp : slot.task.piece (s.context place) s.state =
      some ⟨state, .timer session (.cycling next), [], effects⟩ := by
    have hpiece := (Owner.timer session).piece_task hgoes (s.context place) s.state
    rw [hin]
    exact hpiece.trans (Option.map_eq_some_iff.mpr ⟨_, Cycle.step_eq_some_iff.mpr hstep, rfl⟩)
  refine ⟨_, apply_step_of_piece hslot (by rw [hfree, Bool.false_and]) hp, ?_⟩
  rw [task?_reap, task?_leave_self hslot]

/-- A timer that looks whether its session goes on ends. -/
theorem endsAlone_of_checking (hs : s.Abandoned) {place session : Nat}
    (htask : s.task? place = some (.timer session .checking)) : s.EndsAlone place session := by
  obtain ⟨slot, hslot, hin⟩ := task?_eq_some_iff.mp htask
  obtain ⟨p, hp⟩ : ∃ p, slot.task.piece (s.context place) s.state = some p := by
    rw [hin]
    simp only [Task.piece, Timer.piece]
    split
    · split <;> exact ⟨_, rfl⟩
    · exact ⟨_, rfl⟩
  have happly := apply_step_of_piece hslot (by rw [hin]; exact Bool.and_false _) hp
  have hout : ∀ cycle, Timer.checking ≠ .cycling cycle := fun _ h => by cases h
  obtain ⟨hended, _⟩ := hs.ends_of_step htask hout happly
  exact EndsAlone.before happly ⟨0, _, [], rfl, hended⟩

/-- So does one whose cycle has ended. -/
theorem endsAlone_of_ended (hs : s.Abandoned) {place session : Nat} {outcome : Outcome}
    (htask : s.task? place = some (.timer session (.cycling (.ended outcome)))) :
    s.EndsAlone place session := by
  obtain ⟨slot, hslot, hin⟩ := task?_eq_some_iff.mp htask
  have hp : slot.task.piece (s.context place) s.state =
      some ⟨s.state, .timer session .checking, [], [.note (.scheduledCycle outcome)]⟩ := by
    rw [hin]
    rfl
  have happly := apply_step_of_piece hslot (by rw [hin]; exact Bool.and_false _) hp
  refine EndsAlone.before happly ((hs.apply happly).endsAlone_of_checking ?_)
  rw [task?_reap, task?_leave_self hslot]

/-- And one that has texts to show. -/
theorem endsAlone_of_showing (hs : s.Abandoned) {place session fetched surfaced : Nat}
    {rest : List String}
    (htask : s.task? place = some (.timer session (.cycling (.showing fetched surfaced rest)))) :
    s.EndsAlone place session := by
  induction rest generalizing s with
  | nil =>
      obtain ⟨t, happly, hnext⟩ := hs.exists_step htask .processed
      exact EndsAlone.before happly ((hs.apply happly).endsAlone_of_ended hnext)
  | cons text rest ih =>
      obtain ⟨t, happly, hnext⟩ := hs.exists_step htask .shown
      exact EndsAlone.before happly (ih (hs.apply happly) hnext)

/-- And one that has not looked at its reply. -/
theorem endsAlone_of_answered (hs : s.Abandoned) {place session n : Nat} {endpoint : String}
    {reply : Backend.Reply}
    (htask : s.task? place = some (.timer session (.cycling (.answered n endpoint reply)))) :
    s.EndsAlone place session := by
  cases reply with
  | failure message =>
      obtain ⟨t, happly, hnext⟩ := hs.exists_step htask .fetchFailed
      exact EndsAlone.before happly ((hs.apply happly).endsAlone_of_ended hnext)
  | body text =>
      rcases s.state.stale_or_current n with hstale | ⟨hrun, hsession⟩
      · obtain ⟨t, happly, hnext⟩ := hs.exists_step htask (.discarded hstale)
        exact EndsAlone.before happly ((hs.apply happly).endsAlone_of_ended hnext)
      · obtain ⟨t, happly, hnext⟩ := hs.exists_step htask (.taken hrun hsession)
        exact EndsAlone.before happly ((hs.apply happly).endsAlone_of_showing hnext)

/-- Wherever the timer stands, it waits for the reply to its request or has just woken up, was told
to end where it is suspended, or comes to its end by itself. -/
theorem timer_cases (hs : s.Abandoned) {place session : Nat} {phase : Timer}
    (htask : s.task? place = some (.timer session phase)) :
    phase = .cycling .ready ∨ (∃ n endpoint, phase = .cycling (.waiting n endpoint)) ∨
      (∃ slot, s.slots[place]? = some slot ∧ slot.aborted = true ∧
        slot.task.isSuspended = true) ∨
      s.EndsAlone place session := by
  -- outside of a cycle, only the installed timer was not told to end, and that is inside of one
  have htold : (∀ cycle, phase ≠ .cycling cycle) →
      (Task.timer session phase).role = .timer session →
      ∃ slot, s.slots[place]? = some slot ∧ slot.aborted = true ∧
        slot.task = .timer session phase := by
    intro hout hrole
    obtain ⟨slot, hslot, hin⟩ := task?_eq_some_iff.mp htask
    cases haborted : slot.aborted with
    | true => exact ⟨slot, hslot, haborted, hin⟩
    | false =>
        have htimer : s.role place = .timer session := by
          rw [role_of_getElem? hslot]
          exact Slot.role_eq_timer_iff.mpr ⟨hin ▸ hrole, haborted⟩
        obtain ⟨cycle, hcycle⟩ := hs.cycling_of_timer htask
          ((lifecycle_of_reachable hs.reachable).role_timer_iff.mp htimer)
        exact absurd hcycle (hout cycle)
  cases phase with
  | spawned | sleeping =>
      obtain ⟨slot, hslot, haborted, hin⟩ := htold nofun rfl
      exact Or.inr (Or.inr (Or.inl ⟨slot, hslot, haborted, by rw [hin]; rfl⟩))
  | checking => exact Or.inr (Or.inr (Or.inr (hs.endsAlone_of_checking htask)))
  | ended => exact Or.inr (Or.inr (Or.inr ⟨0, s, [], rfl, htask⟩))
  | cycling cycle =>
      cases cycle with
      | ready => exact Or.inl rfl
      | waiting n endpoint => exact Or.inr (Or.inl ⟨n, endpoint, rfl⟩)
      | ended outcome => exact Or.inr (Or.inr (Or.inr (hs.endsAlone_of_ended htask)))
      | showing fetched surfaced rest =>
          exact Or.inr (Or.inr (Or.inr (hs.endsAlone_of_showing htask)))
      | answered n endpoint reply =>
          exact Or.inr (Or.inr (Or.inr (hs.endsAlone_of_answered htask)))

end Abandoned

/-! ## Stopped pollers -/

/-- A stopped poller that nobody owns stays stopped, and asks no more. -/
theorem silent_of_stopped {events : List Event} {effects : List Effect}
    (hfree : s.isOwned = false) (hstop : s.state.running = false)
    (h : s.run events = some (t, effects)) :
    t.state.running = false ∧ .request ∉ Effect.kinds effects := by
  induction events generalizing s effects with
  | nil =>
      cases h
      exact ⟨hstop, nofun⟩
  | cons e rest ih =>
      obtain ⟨u, told, later, happly, hrest, rfl⟩ := run_cons_eq_some_iff.mp h
      obtain ⟨hend, hnone⟩ := ih (unowned_of_apply hfree happly)
        ((period_of_unowned hfree happly).1.trans hstop) hrest
      refine ⟨hend, ?_⟩
      rw [Effect.kinds_append, List.mem_append]
      rintro (hasks | hlater)
      · obtain ⟨_, _, _, _, _, _, _, hrun⟩ := ready_of_request happly hasks
        exact absurd (hrun.symm.trans hstop) Bool.true_eq_false.mp
      · exact hnone hlater

/-- A stopped poller takes no reply in. -/
theorem discarded_of_stopped {place n : Nat} {endpoint body : String} {told : List Effect}
    (hstop : s.state.running = false)
    (hcycle : s.cycle? place = some (.answered n endpoint (.body body)))
    (h : s.apply (.step place) = some (t, told)) :
    t.cycle? place = some (.ended .discarded) := by
  obtain ⟨state, next, hstep, hnext, _⟩ := step_of_cycle hcycle nofun h
  cases hstep with
  | discarded => exact hnext
  | taken hrun => exact absurd (hrun.symm.trans hstop) Bool.true_eq_false.mp

/-! ## All pollers -/

/-- A start that opens a session, whose request is refused, and its timer at the next place, which
lies down. -/
def asleepBehind (place : Nat) : List Event :=
  [.start .none, .step place, .step place, .deliver place (.failure "refused"), .step place,
    .step place, .step place, .step place, .step (place + 1)]

/-- The poller is stopped and started again while its first timer shows a text, and the last handle
is dropped while its second timer sleeps. -/
def releasedBesideSink : List Event :=
  asleepBehind 0 ++ [.tick defaultInterval, .step 1, .step 1, .deliver 1 (.body "[1]"), .step 1,
    .stop] ++ asleepBehind 2 ++ [.release]

/-- The last handle is dropped when the timer has woken up and its cycle has not begun. -/
def releasedAwake : List Event :=
  asleepBehind 0 ++ [.tick defaultInterval, .step 1, .release]

/-- The poller is stopped and started again while a call for one cycle waits for its reply, and the
last handle is dropped while the timer sleeps. -/
def releasedBesideCall : List Event :=
  asleepBehind 0 ++ [.tick (.ofMillis 300), .poll, .step 2, .stop] ++ asleepBehind 3 ++ [.release]

/-- The last handle is dropped while the request of the timer is on its way. -/
def releasedInRequest : List Event :=
  asleepBehind 0 ++ [.tick (.ofMillis 60000), .step 1, .step 1, .release]

end System

end AlarmMonitor.Polling
