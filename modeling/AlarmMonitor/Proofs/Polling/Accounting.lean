import AlarmMonitor.Proofs.Polling.Ledger

/-!
# What the calls of `start` come to

Calls of `start` may overlap with each other and with everything else.  Each of them keeps books of
what it has entered in the ledger; a call that takes effect begins one request, at once, and
installs at most one timer.

* `Books`, `Task.Account`: what a task has entered, by the point at which it stands;
* `System.account_of_run`: the books of every call at every moment of an unbroken run;
* `System.starts_accounted`: what single calls, and all calls of a stretch together, come to.
-/

set_option autoImplicit false

namespace AlarmMonitor.Polling

/-! ## The books of a call -/

/-- What a call has entered in the ledger. -/
structure Books where
  starts : Nat
  requests : Nat
  timers : Nat
  deriving DecidableEq, Repr

namespace Books

/-- The books behind one more entry. -/
def enter (b : Books) : Effect.Kind → Books
  | .start => { b with starts := b.starts + 1 }
  | .request => { b with requests := b.requests + 1 }
  | .timer => { b with timers := b.timers + 1 }
  | .halt | .other => b

/-- The books of a call in a ledger. -/
def of (call : Nat) (line : List (Option Nat × Effect.Kind)) : Books where
  starts := line.countP fun x => x.1 == some call && x.2 == .start
  requests := line.countP fun x => x.1 == some call && x.2 == .request
  timers := line.countP fun x => x.1 == some call && x.2 == .timer

/-- The books of a call that is over: it has come to nothing, or it took effect, began a request and
possibly installed a timer. -/
def Closed (b : Books) : Prop := b = ⟨0, 0, 0⟩ ∨ b = ⟨1, 1, 0⟩ ∨ b = ⟨1, 1, 1⟩

theorem of_append_self (call : Nat) (line : List (Option Nat × Effect.Kind))
    (ks : List Effect.Kind) :
    of call (line ++ ks.map fun k => (some call, k)) = ks.foldl enter (of call line) := by
  induction ks generalizing line with
  | nil => rw [List.map_nil, List.append_nil, List.foldl_nil]
  | cons k ks ih =>
      have hone : of call (line ++ [(some call, k)]) = (of call line).enter k := by
        simp only [of, List.countP_append, List.countP_singleton, beq_self_eq_true, Bool.true_and]
        cases k <;> rfl
      rw [List.map_cons, List.append_cons, ih, hone, List.foldl_cons]

theorem of_append_other {call : Nat} {caller : Option Nat} (h : caller ≠ some call)
    (line : List (Option Nat × Effect.Kind)) (ks : List Effect.Kind) :
    of call (line ++ ks.map fun k => (caller, k)) = of call line := by
  have hnone : ∀ k, (ks.map fun k => (caller, k)).countP
      (fun x => x.1 == some call && x.2 == k) = 0 := by
    intro k
    have hentries := @System.countP_entries (fun x => x == some call) k caller ks
    rw [hentries]
    exact if_neg fun heq => h (beq_iff_eq.mp heq)
  simp only [of, List.countP_append, hnone, Nat.add_zero]

end Books

/-- The books of a start, by the point at which it stands. -/
def Start.Account (b : Books) : Start → Prop
  | .entering _ => b = ⟨0, 0, 0⟩
  | .cycling _ .ready => b = ⟨1, 0, 0⟩
  | .cycling _ (.ended outcome) => b = ⟨1, 1, 0⟩ ∧ outcome ≠ .notRunning ∧ outcome ≠ .debounced
  | .cycling .. | .arming _ | .cancelled _ => b = ⟨1, 1, 0⟩
  | .leaving _ => b = ⟨1, 1, 0⟩ ∨ b = ⟨1, 1, 1⟩
  | .returned => b.Closed

/-- The books at the place of a task.  Only calls of `start` keep books. -/
def Task.Account (b : Books) : Task → Prop
  | .start phase => phase.Account b
  | .poll _ | .timer .. => b = ⟨0, 0, 0⟩
  | .gone => b.Closed

/-- No call has entered more than one start, one request and one timer, and a request it has entered
only with its start. -/
theorem Task.Account.le {b : Books} {t : Task} (h : t.Account b) :
    b.starts ≤ 1 ∧ b.requests ≤ b.starts ∧ b.timers ≤ b.requests ∧
      (t.owesRequest = false → b.requests = b.starts) := by
  have hclosed : b.Closed → b.starts ≤ 1 ∧ b.requests ≤ b.starts ∧ b.timers ≤ b.requests ∧
      b.requests = b.starts := by
    rintro (rfl | rfl | rfl) <;> decide
  have hdone : b.Closed → b.starts ≤ 1 ∧ b.requests ≤ b.starts ∧ b.timers ≤ b.requests ∧
      (t.owesRequest = false → b.requests = b.starts) := fun hb =>
    ⟨(hclosed hb).1, (hclosed hb).2.1, (hclosed hb).2.2.1, fun _ => (hclosed hb).2.2.2⟩
  cases t with
  | start phase =>
      cases phase with
      | entering => exact hdone (Or.inl h)
      | cycling session cycle =>
          cases cycle with
          | ready =>
              cases (h : b = ⟨1, 0, 0⟩)
              exact ⟨Nat.le_refl _, Nat.zero_le _, Nat.le_refl _, nofun⟩
          | ended => exact hdone (Or.inr (Or.inl h.1))
          | waiting | answered | showing => exact hdone (Or.inr (Or.inl h))
      | arming | cancelled => exact hdone (Or.inr (Or.inl h))
      | leaving => exact hdone (Or.inr h)
      | returned => exact hdone h
  | poll | timer => exact hdone (Or.inl h)
  | gone => exact hdone h

/-- A piece of a start keeps its books in order. -/
theorem Deed.account {c : Context} {s : State} {t : Task} {p : Piece} {b : Books}
    (h : Deed c s t p) (hpoised : t.Poised s) (hb : t.Account b) (ht : t.isStart = true) :
    p.task.Account ((Effect.kinds p.effects).foldl Books.enter b) := by
  cases h with
  | refuse => exact Or.inl hb
  | enter =>
      rw [State.kinds_of_start]
      cases (hb : b = ⟨0, 0, 0⟩)
      rfl
  | @cycle owner _ cycle next state effects htask hstep =>
      subst htask
      cases owner with
      | poll | timer => exact absurd ht nofun
      | start session =>
          cases hstep with
          | notRunning hstop => exact absurd (hpoised.1.symm.trans hstop) Bool.true_eq_false.mp
          | debounced _ hlast => exact absurd (hpoised.2.2.symm.trans hlast) nofun
          | request =>
              cases (hb : b = ⟨1, 0, 0⟩)
              rfl
          | fetchFailed | discarded | processed => exact ⟨hb, nofun, nofun⟩
          | taken =>
              have hnotes : ∀ evicted remaining,
                  Effect.kinds (Cycle.pruneNotes evicted remaining) = [] := by
                intro evicted remaining
                unfold Cycle.pruneNotes
                split <;> rfl
              rw [hnotes]
              exact hb
          | shown => exact hb
  | firstOver => exact hb.1
  | arm =>
      cases (hb : b = ⟨1, 1, 0⟩)
      exact Or.inr rfl
  | pass => exact Or.inl hb
  | undo hphase | release hphase =>
      cases hphase with
      | returns => exact Or.inr hb
      | vanishes => exact Or.inr (Or.inl hb)
  | lieDown | retire | wake | scheduledOver => exact absurd ht nofun

theorem Task.account_of_deliver {t next : Task} {reply : Backend.Reply} {b : Books}
    (h : t.deliver reply = some next) (hb : t.Account b) : next.Account b := by
  obtain ⟨owner, session, endpoint, rfl, rfl⟩ := Task.answered_of_deliver h
  cases owner <;> exact hb

theorem Task.account_dropped {t : Task} {b : Books} (h : t.isSuspended = true)
    (hb : t.Account b) : t.dropped.Account b := by
  cases t with
  | start phase =>
      cases phase with
      | entering => exact Or.inl hb
      | cycling session cycle =>
          cases cycle with
          | waiting | answered => exact hb
          | ready | showing | ended => exact absurd h nofun
      | arming | leaving | cancelled | returned => exact absurd h nofun
  | poll | timer => exact Or.inl hb
  | gone => exact hb

/-- A task that is no start, and does not become one, keeps no books. -/
theorem Task.account_of_not_start {c : Context} {s : State} {t : Task} {p : Piece} {b : Books}
    (ht : t.isStart = false) (hp : t.piece c s = some p) (hb : t.Account b) :
    p.task.Account b := by
  have hnext := (Task.piece_of_not_start ht hp).2.2
  have hzero : b = ⟨0, 0, 0⟩ := by
    cases t with
    | start => exact absurd ht nofun
    | poll | timer => exact hb
    | gone => exact absurd hp nofun
  generalize p.task = next at hnext ⊢
  cases next with
  | start => exact absurd hnext nofun
  | poll | timer => exact hzero
  | gone => exact Or.inl hzero

/-- The books at a place: where there is no task, nothing has been entered. -/
def AccountAt (b : Books) : Option Task → Prop
  | some t => t.Account b
  | none => b = ⟨0, 0, 0⟩

namespace System

/-! ## The books of all calls -/

/-- The books of the call at a place are in order. -/
def Account (call : Nat) (line : List (Option Nat × Effect.Kind)) (s : System) : Prop :=
  AccountAt (.of call line) (s.task? call)

theorem account_new (call : Nat) (hint : String) : Account call [] (new hint) := rfl

/-- What happens at a place keeps the books there in order. -/
theorem Fate.account {s : System} {e : Event} {effects : List Effect} {call : Nat}
    {line : List (Option Nat × Effect.Kind)} {before behind : Option Task}
    (h : s.Fate e effects call before behind) (hpoised : ∀ t, before = some t → t.Poised s.state)
    (hb : AccountAt (.of call line) before) :
    AccountAt (.of call (line ++ (Effect.kinds effects).map fun k => (s.caller? e, k))) behind := by
  have hother : s.caller? e ≠ some call →
      Books.of call (line ++ (Effect.kinds effects).map fun k => (s.caller? e, k)) =
        .of call line := fun hcaller => Books.of_append_other hcaller line _
  cases h with
  | kept he =>
      rw [hother (caller?_ne he)]
      exact hb
  | called hcall =>
      rcases hcall with ⟨rfl, rfl⟩ | ⟨options, rfl, rfl⟩
      · rw [hother (caller?_ne nofun)]
        exact hb
      · rw [hother (caller?_ne nofun)]
        exact hb
  | spawned he hplace =>
      rw [hother (caller?_ne fun hstep => hplace (Event.step.inj (he.symm.trans hstep)))]
      exact hb
  | @stepped slot p he hslot _ hp heffects =>
      subst he heffects
      have hcaller := caller?_step hslot
      cases hstart : slot.task.isStart with
      | true =>
          rw [hstart, if_pos rfl] at hcaller
          rw [hcaller, Books.of_append_self]
          exact (Task.deed_of_piece hp).account (hpoised _ rfl) hb hstart
      | false =>
          rw [hstart, if_neg Bool.false_ne_true] at hcaller
          rw [hother (by rw [hcaller]; exact nofun)]
          exact Task.account_of_not_start hstart hp hb
  | delivered he hnext =>
      rw [hother (caller?_ne (by rw [he]; exact nofun))]
      exact Task.account_of_deliver hnext hb
  | dropped he hsuspended =>
      rw [hother (caller?_ne (by rw [he]; exact nofun))]
      exact Task.account_dropped hsuspended hb

/-- At every moment of an unbroken run, the books of every call are in order. -/
theorem account_of_run {hint : String} {events : List Event} {s : System} {effects : List Effect}
    (hheeds : (new hint).heeds unbroken events = true)
    (hrun : (new hint).run events = some (s, effects)) (call : Nat) :
    s.Account call ((new hint).ledger events) := by
  have hboth : s.Poised ∧ s.Account call ((new hint).ledger events) :=
    record_induction (P := fun line s => s.Poised ∧ s.Account call line)
      (fun hint => ⟨poised_new hint, account_new call hint⟩)
      (fun hreach hs hrule happly => ⟨hs.1.apply hreach hrule happly,
        (fate_of_apply happly call).account (hs.1 call) hs.2⟩)
      hheeds hrun
  exact hboth.2

/-! ## Single calls -/

/-- A call that finds the poller running is over, and leaves everything as it is. -/
theorem refused_of_running {s t : System} {call : Nat} {options : Options} {told : List Effect}
    (hcall : s.task? call = some (.start (.entering options))) (hrun : s.state.running = true)
    (h : s.apply (.step call) = some (t, told)) :
    told = [] ∧ t.task? call = some (.start .returned) ∧
      { t.state with timer := s.state.timer } = s.state ∧
      (t.isAlive = true → t.state = s.state) := by
  obtain ⟨p, hdeed, rfl, rfl, hnext⟩ := deed_of_step hcall h
  rcases hdeed.of_entering with ⟨_, rfl⟩ | ⟨hstop, _⟩
  · refine ⟨rfl, hnext, ?_, fun halive => ?_⟩
    · rcases state_reap (s.leave call ⟨s.state, .start .returned, [], []⟩) with hsame | hlost
      · rw [hsame]
        rfl
      · rw [hlost]
        rfl
    · rw [isAlive_reap] at halive
      rw [reap_of_alive halive]
      rfl
  · exact absurd (hrun.symm.trans hstop) Bool.true_eq_false.mp

/-- A start that is about to open its cycle, and finds its session running and no request in it,
begins one. -/
theorem asks_of_ready {s : System} {call session : Nat}
    (hcall : s.task? call = some (.start (.cycling session .ready)))
    (hrun : s.state.running = true) (hfresh : s.state.lastCycle = none) :
    ∃ t, s.apply (.step call) = some (t, [.request call s.state.config.endpoint]) := by
  obtain ⟨slot, hslot, htask⟩ := task?_eq_some_iff.mp hcall
  have hlate : ∀ last, s.state.lastCycle = some last →
      ¬ Duration.between last (s.context call).now < debounceWindow := by
    intro last hlast
    exact absurd (hfresh.symm.trans hlast) nofun
  have hpiece : slot.task.piece (s.context call) s.state =
      some ⟨{ s.state with lastCycle := some s.now },
        .start (.cycling session (.waiting s.state.session s.state.config.endpoint)), [],
        [.request call s.state.config.endpoint]⟩ := by
    rw [htask]
    exact Option.map_eq_some_iff.mpr
      ⟨_, Cycle.step_eq_some_iff.mpr (.request hrun hlate), rfl⟩
  have hfree : (slot.aborted && slot.task.isSuspended) = false := by
    rw [htask]
    exact Bool.and_false _
  exact ⟨_, apply_eq_some_iff.mpr
    ⟨_, step_eq_some_iff.mpr ⟨slot, _, hslot, hfree, hpiece, rfl, rfl⟩, rfl⟩⟩

/-- A call that finds the poller stopped begins a request with its next piece, to the endpoint that
its options leave configured. -/
theorem asks_of_stopped {s t : System} {call : Nat} {options : Options} {told : List Effect}
    (hreach : Reachable s) (hcall : s.task? call = some (.start (.entering options)))
    (hstop : s.state.running = false) (h : s.apply (.step call) = some (t, told)) :
    ∃ u, t.apply (.step call) =
      some (u, [.request call (s.state.config.merge options).config.endpoint]) := by
  obtain ⟨p, hdeed, rfl, rfl, hnext⟩ := deed_of_step hcall h
  rcases hdeed.of_entering with ⟨hrun, _⟩ | ⟨_, hstate, htask⟩
  · exact absurd (hrun.symm.trans hstop) Bool.true_eq_false.mp
  · rw [htask] at hnext
    have hleave : (s.leave call p).state = p.state := rfl
    have hrun : (s.leave call p).reap.state.running = true := by
      rw [running_reap, hleave, hstate]
    have hfresh : (s.leave call p).reap.state.lastCycle = none := by
      rw [lastCycle_reap, hleave, hstate]
      exact ((sound_of_reachable hreach).stopped hstop).2.1
    obtain ⟨u, hu⟩ := asks_of_ready hnext hrun hfresh
    refine ⟨u, ?_⟩
    rw [hu, config_reap, hleave, hstate]

/-- A timer is installed by a call alone, behind its first cycle, and only in its session and where
there is none. -/
theorem armed_of_spawned {s t : System} {e : Event} {told : List Effect} {timer : Nat}
    (h : s.apply e = some (t, told)) (hspawned : .spawned timer ∈ told) :
    ∃ call session, e = .step call ∧ s.task? call = some (.start (.arming session)) ∧
      s.state.running = true ∧ s.state.session = session ∧ s.state.timer = none ∧
      t.state.timer = some ⟨timer, session⟩ := by
  obtain ⟨call, slot, p, rfl, hslot, hp, rfl, rfl⟩ := step_of_mem h hspawned ⟨nofun, nofun⟩
  have hcall : s.task? call = some slot.task := task?_eq_some_iff.mpr ⟨slot, hslot, rfl⟩
  have hdeed := Task.deed_of_piece hp
  generalize slot.task = task at hdeed hcall
  cases hdeed with
  | @arm session hawaits =>
      cases List.mem_singleton.mp hspawned
      obtain ⟨hrun, hsession, hnone⟩ := State.awaitsTimer_iff.mp hawaits
      refine ⟨call, session, rfl, hcall, hrun, hsession, hnone, ?_⟩
      -- the call is not over, and holds the poller
      rw [reap_leave_of_holdsPoller hslot rfl]
      rfl
  | cycle _ hstep =>
      rcases hstep.asks_or_silent with ⟨_, _, _, _, _, rfl⟩ | ⟨hother, _⟩
      · exact absurd (List.mem_singleton.mp hspawned) nofun
      · exact absurd (hother _ hspawned) nofun
  | enter =>
      have hentered := Effect.kind_mem_kinds hspawned nofun
      rw [State.kinds_of_start] at hentered
      exact absurd (List.mem_singleton.mp hentered) nofun
  | firstOver | scheduledOver | undo => exact absurd (List.mem_singleton.mp hspawned) nofun
  | refuse | pass | release | lieDown | retire | wake => exact absurd hspawned List.not_mem_nil

/-- Behind its opening section, a call leaves a running poller. -/
theorem running_of_entering {s t : System} {call : Nat} {options : Options} {told : List Effect}
    (hcall : s.task? call = some (.start (.entering options)))
    (h : s.apply (.step call) = some (t, told)) : t.state.running = true := by
  obtain ⟨p, hdeed, rfl, rfl, _⟩ := deed_of_step hcall h
  have hleave : (s.leave call p).state = p.state := rfl
  rw [running_reap, hleave]
  rcases hdeed.of_entering with ⟨hrun, rfl⟩ | ⟨_, hstate, _⟩
  · exact hrun
  · rw [hstate]

/-! ## All calls -/

/-- The counts of a call in the ledger of an unbroken run. -/
theorem counts_of_call {hint : String} {events : List Event} {s : System} {effects : List Effect}
    (hheeds : (new hint).heeds unbroken events = true)
    (hrun : (new hint).run events = some (s, effects)) (call : Nat) :
    (new hint).counted (· == some call) .start events ≤ 1 ∧
    (new hint).counted (· == some call) .request events ≤
      (new hint).counted (· == some call) .start events ∧
    (new hint).counted (· == some call) .timer events ≤
      (new hint).counted (· == some call) .request events ∧
    ((s.task? call).any (·.owesRequest) = false →
      (new hint).counted (· == some call) .request events =
        (new hint).counted (· == some call) .start events) := by
  have haccount : AccountAt (.of call ((new hint).ledger events)) (s.task? call) :=
    account_of_run hheeds hrun call
  cases htask : s.task? call with
  | none =>
      rw [htask] at haccount
      have hclosed : Task.Account (.of call ((new hint).ledger events)) .gone := Or.inl haccount
      obtain ⟨hstarts, hrequests, htimers, hpaid⟩ := hclosed.le
      exact ⟨hstarts, hrequests, htimers, fun _ => hpaid rfl⟩
  | some t =>
      rw [htask] at haccount
      exact Task.Account.le haccount

/-- A stretch that leads from a stopped poller through the opening section of a call, and in which
no running period ends, holds one start that takes effect. -/
theorem one_start_of_entering {s t u : System} {pre post : List Event} {call : Nat}
    {options : Options} {effects told : List Effect} (hstop : s.state.running = false)
    (hrun : s.run (pre ++ .step call :: post) = some (t, effects))
    (hsteady : s.counted anyone .halt (pre ++ .step call :: post) = 0)
    (hpre : s.run pre = some (u, told))
    (hcall : u.task? call = some (.start (.entering options))) :
    s.counted anyone .start (pre ++ .step call :: post) = 1 := by
  obtain ⟨u', first, later, hpre', hlater, _⟩ := run_append_eq_some_iff.mp hrun
  rw [hpre] at hpre'
  cases hpre'
  obtain ⟨v, seen, rest, happly, hpost, _⟩ := run_cons_eq_some_iff.mp hlater
  have hrunning := running_of_entering hcall happly
  have hhalts := hsteady
  rw [counted_append hpre, counted_cons_anyone happly] at hhalts
  have hwhole := starts_of_run hrun
  have hrest := starts_of_run hpost
  have hlast := Bool.toNat_le t.state.running
  rw [hstop] at hwhole
  rw [hrunning] at hrest
  simp only [Bool.toNat_true, Bool.toNat_false] at hwhole hrest
  omega

/-- In every run in which no task takes a step, and nobody stops the poller, in the middle of a
stretch of another task:

* a call that finds the poller running is over and changes nothing; one that finds it stopped begins
  a request with its next piece, and its first cycle is never skipped and never finds the poller
  stopped;
* a timer is installed by a call whose session still runs, where there is none;
* a call takes effect at most once, begins a request if and only if it does, and installs at most
  one timer;
* over every stretch, starts that take effect and running periods that end keep balance, every start
  that takes effect begins its request, and from a stopped poller on, no more timers are installed;
* so a stretch from a stopped poller on in which calls begin and no running period ends comes to one
  request of a start and at most one timer. -/
theorem starts_accounted {hint : String} {before events : List Event} {s₀ s : System}
    {effects₀ effects : List Effect} (hbefore : (new hint).run before = some (s₀, effects₀))
    (hrun : s₀.run events = some (s, effects))
    (hheeds : (new hint).heeds unbroken (before ++ events) = true) :
    (∀ call options t told, s.task? call = some (.start (.entering options)) →
      s.apply (.step call) = some (t, told) →
      (s.state.running = true →
        told = [] ∧ t.task? call = some (.start .returned) ∧
          { t.state with timer := s.state.timer } = s.state ∧
          (t.isAlive = true → t.state = s.state)) ∧
      (s.state.running = false →
        ∃ u, t.apply (.step call) =
          some (u, [.request call (s.state.config.merge options).config.endpoint]))) ∧
    (∀ call session outcome, s.task? call = some (.start (.cycling session (.ended outcome))) →
      outcome ≠ .notRunning ∧ outcome ≠ .debounced) ∧
    (∀ e t told timer, s.apply e = some (t, told) → .spawned timer ∈ told →
      ∃ call session, e = .step call ∧ s.task? call = some (.start (.arming session)) ∧
        s.state.running = true ∧ s.state.session = session ∧ s.state.timer = none ∧
        t.state.timer = some ⟨timer, session⟩) ∧
    (∀ call,
      (new hint).counted (· == some call) .start (before ++ events) ≤ 1 ∧
      (new hint).counted (· == some call) .request (before ++ events) ≤
        (new hint).counted (· == some call) .start (before ++ events) ∧
      (new hint).counted (· == some call) .timer (before ++ events) ≤
        (new hint).counted (· == some call) .request (before ++ events) ∧
      ((s.task? call).any (·.owesRequest) = false →
        (new hint).counted (· == some call) .request (before ++ events) =
          (new hint).counted (· == some call) .start (before ++ events))) ∧
    s₀.counted anyone .start events + s₀.state.running.toNat =
      s₀.counted anyone .halt events + s.state.running.toNat ∧
    s₀.counted Option.isSome .request events + s.owed =
      s₀.counted anyone .start events + s₀.owed ∧
    (s₀.state.running = false →
      s₀.counted anyone .timer events ≤ s₀.counted anyone .start events) ∧
    (s₀.state.running = false → s₀.counted anyone .halt events = 0 →
      ∀ pre call post options u told, events = pre ++ .step call :: post →
        s₀.run pre = some (u, told) → u.task? call = some (.start (.entering options)) →
        s₀.counted anyone .start events = 1 ∧
        s₀.counted Option.isSome .request events + s.owed = 1 ∧
        s₀.counted anyone .timer events ≤ 1) := by
  have hwhole : (new hint).run (before ++ events) = some (s, effects₀ ++ effects) :=
    run_append_eq_some_iff.mpr ⟨s₀, effects₀, effects, hbefore, hrun, rfl⟩
  obtain ⟨hheeds₀, hheeds₁⟩ := (heeds_append hbefore).mp hheeds
  have hreach₀ : Reachable s₀ := ⟨hint, before, effects₀, hbefore⟩
  have hreach : Reachable s := hreach₀.run hrun
  have hpoised₀ := poised_of_run hheeds₀ hbefore
  have hrequests := requests_of_run hreach₀ hpoised₀ hheeds₁ hrun
  have htimers : s₀.state.running = false →
      s₀.counted anyone .timer events ≤ s₀.counted anyone .start events := by
    intro hstop
    have hle := timers_of_run hrun
    have hnone : s₀.awaits = 0 := by
      unfold awaits
      rw [hstop, Bool.and_false, Bool.false_and]
      rfl
    rw [hnone] at hle
    exact Nat.le_trans (Nat.le_add_right _ _) hle
  refine ⟨?_, ?_, ?_, counts_of_call hheeds hwhole, starts_of_run hrun, hrequests, htimers, ?_⟩
  · intro call options t told hcall happly
    exact ⟨fun hrunning => refused_of_running hcall hrunning happly,
      fun hstop => asks_of_stopped hreach hcall hstop happly⟩
  · intro call session outcome hcall
    have haccount : AccountAt _ (s.task? call) := account_of_run hheeds hwhole call
    rw [hcall] at haccount
    exact haccount.2
  · intro e t told timer happly hspawned
    exact armed_of_spawned happly hspawned
  · intro hstop hsteady pre call post options u told hevents hpre hcall
    subst hevents
    have hone := one_start_of_entering hstop hrun hsteady hpre hcall
    have hle := htimers hstop
    rw [hpoised₀.owed_of_stopped hstop] at hrequests
    rw [hone] at hrequests hle ⊢
    exact ⟨rfl, hrequests, hle⟩

/-- Two calls begin before either has run, and the second one runs while the first one waits for its
reply. -/
def overlappingStarts : List Event :=
  [.start .none, .start .none, .step 0, .step 0, .step 1, .deliver 0 (.failure "refused"),
    .step 0, .step 0, .step 0, .step 0]

theorem starts_accounted_of_overlappingStarts :
    ∃ s effects, (new "").run overlappingStarts = some (s, effects) ∧
      (new "").heeds unbroken overlappingStarts = true ∧ s.owed = 0 ∧
      (new "").counted anyone .start overlappingStarts = 1 ∧
      (new "").counted Option.isSome .request overlappingStarts = 1 ∧
      (new "").counted anyone .timer overlappingStarts ≤ 1 := by
  have hrun : (new "").run overlappingStarts = some (_, _) := rfl
  have hheeds : (new "").heeds unbroken overlappingStarts = true := by decide
  obtain ⟨_, _, _, _, _, _, _, hone⟩ :=
    starts_accounted (show (new "").run [] = some (new "", []) from rfl) hrun hheeds
  obtain ⟨hstarts, hrequests, htimers⟩ :=
    hone rfl (by decide) [.start .none, .start .none] 0 _ .none _ _ rfl rfl rfl
  exact ⟨_, _, hrun, hheeds, rfl, hstarts, hrequests, htimers⟩

end System

end AlarmMonitor.Polling
