import AlarmMonitor.Watch.System

/-!
# The pieces of a watch's tasks, taken apart

What the next piece of each task can be, with what it asks for and what it leaves behind:

* `Turn`: what a piece can do to the status, and that it is seen;
* `Boot.Step`, `Observer.Step`: the pieces of the two tasks that start and stop the poller;
* `loop_of_stepLoop`, `check_of_stepCheck`: the pieces of the tasks that set the status at most;
* `Shutdown.Step`: the five pieces of a shutdown.
-/

set_option autoImplicit false

namespace AlarmMonitor.Watch

open AlarmMonitor.Backend (Reply)
open AlarmMonitor.Install (Status Cell Subscription)

/-! ## Transitions of the status -/

/-- The status that became the current one. -/
def Effect.status? : Effect → Option Status
  | .transition v => some v
  | _ => none

/-- The transitions of the status among what was seen. -/
def transitions (seen : List Effect) : List Status := seen.filterMap Effect.status?

theorem transitions_append (first later : List Effect) :
    transitions (first ++ later) = transitions first ++ transitions later :=
  List.filterMap_append

/-- What the poller lets be seen is neither a transition nor a reset. -/
theorem plain_map_poller (seen : List Polling.Effect) :
    transitions (seen.map .poller) = [] ∧ Effect.reset ∉ seen.map .poller := by
  refine ⟨List.filterMap_eq_nil_iff.mpr fun x hx => ?_, fun h => ?_⟩
  · obtain ⟨_, _, rfl⟩ := List.mem_map.mp hx
    rfl
  · obtain ⟨_, _, heq⟩ := List.mem_map.mp h
    exact absurd heq nofun

/-- Notes are neither transitions nor resets. -/
theorem plain_notes (ns : List Install.Note) :
    transitions (System.notes ns) = [] ∧ Effect.reset ∉ System.notes ns := by
  refine ⟨List.filterMap_eq_nil_iff.mpr fun x hx => ?_, fun h => ?_⟩
  · obtain ⟨_, _, rfl⟩ := List.mem_map.mp hx
    rfl
  · obtain ⟨_, _, heq⟩ := List.mem_map.mp h
    exact absurd heq nofun

/-- What happens to the status: nothing that a subscriber could notice, or one transition, which
is counted and seen. -/
inductive Turn (c : Cell) : Cell → List Effect → Prop where
  | still {next : Cell} {seen : List Effect} (hvalue : next.value = c.value)
      (hversion : next.version = c.version) (hseen : transitions seen = []) : Turn c next seen
  | flip {next : Cell} {seen : List Effect} (hvalue : next.value ≠ c.value)
      (hversion : next.version = c.version + 1) (hseen : transitions seen = [next.value]) :
      Turn c next seen

/-- What is seen besides makes no difference if no transition is among it. -/
theorem Turn.congr {c next : Cell} {seen others : List Effect} (h : Turn c next seen)
    (hothers : transitions others = transitions seen) : Turn c next others := by
  cases h with
  | still hvalue hversion hseen => exact .still hvalue hversion (hothers.trans hseen)
  | flip hvalue hversion hseen => exact .flip hvalue hversion (hothers.trans hseen)

/-- Setting the status is a transition if the status differs, and nothing otherwise. -/
theorem turn_setStatus (s : System) (v : Status) :
    ∃ c, (s.setStatus v).1 = { s with cell := c } ∧ c.value = v ∧
      Turn s.cell c (s.setStatus v).2 ∧ ∀ x ∈ (s.setStatus v).2, x = .transition v := by
  unfold System.setStatus Cell.set
  by_cases h : s.cell.value = v
  · rw [if_pos h]
    exact ⟨s.cell, rfl, h, .still rfl rfl rfl, fun x hx => absurd hx List.not_mem_nil⟩
  · rw [if_neg h]
    exact ⟨_, rfl, rfl, .flip (Ne.symm h) rfl rfl, fun x hx => List.mem_singleton.mp hx⟩

theorem reset_not_mem {v : Status} {effects : List Effect}
    (h : ∀ x ∈ effects, x = .transition v) : Effect.reset ∉ effects :=
  fun hreset => absurd (h _ hreset) nofun

/-- A reply that reports another status sets it, and any other leaves the status alone. -/
theorem cell_of_applyReply {c next : Cell} {endpoint : String} {reply : Reply}
    {outcome : Install.Outcome} {ns : List Install.Note}
    (h : Install.applyReply c endpoint reply = (next, outcome, ns)) :
    (∃ v, outcome = .changed v ∧ c.value ≠ v ∧
        next = { c with value := v, version := c.version + 1 }) ∨
      ((∀ v, outcome ≠ .changed v) ∧ next = c) := by
  cases reply with
  | failure message =>
      cases h
      exact Or.inr ⟨nofun, rfl⟩
  | body text =>
      simp only [Install.applyReply] at h
      cases hread : Install.reported text with
      | none =>
          rw [hread] at h
          cases h
          exact Or.inr ⟨nofun, rfl⟩
      | some v =>
          rw [hread] at h
          by_cases hvalue : c.value = v
          · have hset : c.set v = (c, false) := if_pos hvalue
            simp only [hset] at h
            cases h
            exact Or.inr ⟨nofun, rfl⟩
          · have hset : c.set v = ({ c with value := v, version := c.version + 1 }, true) :=
              if_neg hvalue
            simp only [hset] at h
            cases h
            exact Or.inl ⟨v, rfl, hvalue, rfl⟩

/-- A reply sets the status at most. -/
theorem turn_applyReply (s : System) (endpoint : String) (reply : Reply) :
    ∃ c outcome seen, s.applyReply endpoint reply = ({ s with cell := c }, outcome, seen) ∧
      Turn s.cell c seen ∧ Effect.reset ∉ seen := by
  rcases hreply : Install.applyReply s.cell endpoint reply with ⟨c, outcome, ns⟩
  obtain ⟨htransitions, hreset⟩ := plain_notes ns
  rcases cell_of_applyReply hreply with ⟨v, rfl, hne, rfl⟩ | ⟨hother, rfl⟩
  · have happly : s.applyReply endpoint reply =
        ({ s with cell := { s.cell with value := v, version := s.cell.version + 1 } }, .changed v,
          .transition v :: System.notes ns) := by
      unfold System.applyReply
      rw [hreply]
      rfl
    refine ⟨_, _, _, happly, .flip (Ne.symm hne) rfl ?_, ?_⟩
    · exact congrArg (List.cons v) htransitions
    · rw [List.mem_cons, not_or]
      exact ⟨nofun, hreset⟩
  · refine ⟨_, outcome, System.notes ns, ?_, .still rfl rfl htransitions, hreset⟩
    unfold System.applyReply
    rw [hreply]
    cases outcome with
    | changed v => exact absurd rfl (hother v)
    | unchanged | unrecognised | failed => rfl

/-! ## Who drives the poller -/

namespace System

theorem poller_eq_some_iff {s t : System} {e : Polling.Event} {effects : List Effect} :
    s.poller e = some (t, effects) ↔
      ∃ p seen, s.polling.apply e = some (p, seen) ∧ t = { s with polling := p } ∧
        effects = seen.map .poller := by
  unfold poller
  rw [Option.map_eq_some_iff]
  constructor
  · rintro ⟨⟨p, seen⟩, happly, heq⟩
    cases heq
    exact ⟨p, seen, happly, rfl, rfl⟩
  · rintro ⟨p, seen, happly, rfl, rfl⟩
    exact ⟨(p, seen), happly, rfl⟩

theorem beginStart_eq_some_iff {s t : System} {id : Nat} {next : Nat → Task}
    {effects : List Effect} :
    s.beginStart id next = some (t, effects) ↔
      ∃ p seen, s.polling.apply (.start .none) = some (p, seen) ∧
        t = { s with polling := p }.setTask id (next s.polling.slots.length) ∧
        effects = seen.map .poller := by
  unfold beginStart
  rw [Option.map_eq_some_iff]
  constructor
  · rintro ⟨⟨u, seen⟩, happly, heq⟩
    obtain ⟨p, told, hp, rfl, rfl⟩ := poller_eq_some_iff.mp happly
    cases heq
    exact ⟨p, told, hp, rfl, rfl⟩
  · rintro ⟨p, seen, hp, rfl, rfl⟩
    exact ⟨_, poller_eq_some_iff.mpr ⟨p, seen, hp, rfl, rfl⟩, rfl⟩

theorem stopPoller_eq_some_iff {s t : System} {id : Nat} {next : Task} {effects : List Effect} :
    s.stopPoller id next = some (t, effects) ↔
      ∃ p seen, s.polling.apply .stop = some (p, seen) ∧
        t = { s with polling := p }.setTask id next ∧ effects = seen.map .poller := by
  unfold stopPoller
  rw [Option.map_eq_some_iff]
  constructor
  · rintro ⟨⟨u, seen⟩, happly, heq⟩
    obtain ⟨p, told, hp, rfl, rfl⟩ := poller_eq_some_iff.mp happly
    cases heq
    exact ⟨p, told, hp, rfl, rfl⟩
  · rintro ⟨p, seen, hp, rfl, rfl⟩
    exact ⟨_, poller_eq_some_iff.mpr ⟨p, seen, hp, rfl, rfl⟩, rfl⟩

theorem releaseHandles_eq_some_iff {s t : System} {effects : List Effect} :
    s.releaseHandles = some (t, effects) ↔
      ∃ p seen, s.polling.apply .release = some (p, seen) ∧
        t = { s with polling := p, cell := s.cell.release } ∧ effects = seen.map .poller := by
  unfold releaseHandles
  rw [Option.map_eq_some_iff]
  constructor
  · rintro ⟨⟨u, seen⟩, happly, heq⟩
    obtain ⟨p, told, hp, rfl, rfl⟩ := poller_eq_some_iff.mp happly
    cases heq
    exact ⟨p, told, hp, rfl, rfl⟩
  · rintro ⟨p, seen, hp, rfl, rfl⟩
    exact ⟨_, poller_eq_some_iff.mpr ⟨p, seen, hp, rfl, rfl⟩, rfl⟩

end System

/-! ## The check at boot -/

/-- The pieces of a boot check: the poller, the status and the check behind each, and what is
seen of it. -/
inductive Boot.Step (s : System) (id : Nat) :
    Boot → Polling.System → Cell → Boot → List Effect → Prop where
  | ask : Step s id .ready s.polling s.cell .waiting [.request id s.settings.endpoint]
  | failed {message : String} :
      Step s id (.answered (.failure message)) s.polling s.cell (.ended none)
        [.note (.bootFailed message)]
  | unrecognised {text : String} (hread : Install.reported text = none) :
      Step s id (.answered (.body text)) s.polling s.cell (.ended none) [.note .bootUnrecognised]
  | reported {text : String} {v : Status} {c : Cell} {effects : List Effect}
      (hread : Install.reported text = some v) (hvalue : c.value = v)
      (hturn : Turn s.cell c effects) (hreset : Effect.reset ∉ effects) :
      Step s id (.answered (.body text)) s.polling c (.acting v)
        (.note (.bootReported v) :: effects)
  | start {p : Polling.System} {seen : List Polling.Effect}
      (hp : s.polling.apply (.start .none) = some (p, seen)) :
      Step s id (.acting .install) p s.cell (.starting .install s.polling.slots.length)
        (seen.map .poller)
  | stop {p : Polling.System} {seen : List Polling.Effect}
      (hp : s.polling.apply .stop = some (p, seen)) :
      Step s id (.acting .uninstall) p s.cell (.stopped .uninstall) (seen.map .poller)
  | started {v : Status} {call : Nat} (hover : s.callIsOver call = true) :
      Step s id (.starting v call) s.polling s.cell (.ended (some v)) []
  | reset {v : Status} : Step s id (.stopped v) s.polling s.cell (.ended (some v)) [.reset]

theorem boot_of_stepBoot {s t : System} {id : Nat} {wrap : Boot → Task} {phase : Boot}
    {effects : List Effect} (h : s.stepBoot id wrap phase = some (t, effects)) :
    ∃ p c next, Boot.Step s id phase p c next effects ∧
      t = { s with polling := p, cell := c }.setTask id (wrap next) := by
  cases phase with
  | ready =>
      cases Option.some.inj h
      exact ⟨_, _, _, .ask, rfl⟩
  | answered reply =>
      cases reply with
      | failure message =>
          cases Option.some.inj h
          exact ⟨_, _, _, .failed, rfl⟩
      | body text =>
          simp only [System.stepBoot] at h
          cases hread : Install.reported text with
          | none =>
              rw [hread] at h
              cases Option.some.inj h
              exact ⟨_, _, _, .unrecognised hread, rfl⟩
          | some v =>
              rw [hread] at h
              cases Option.some.inj h
              obtain ⟨c, hcell, hvalue, hturn, honly⟩ := turn_setStatus s v
              exact ⟨_, _, _, .reported hread hvalue hturn (reset_not_mem honly), by rw [hcell]⟩
  | acting v =>
      cases v with
      | install =>
          have hbegin : s.beginStart id (fun call => wrap (.starting .install call)) =
              some (t, effects) := h
          obtain ⟨p, seen, hp, rfl, rfl⟩ := System.beginStart_eq_some_iff.mp hbegin
          exact ⟨_, _, _, .start hp, rfl⟩
      | uninstall =>
          obtain ⟨p, seen, hp, rfl, rfl⟩ := System.stopPoller_eq_some_iff.mp h
          exact ⟨_, _, _, .stop hp, rfl⟩
  | starting v call =>
      simp only [System.stepBoot] at h
      split at h
      · rename_i hover
        cases Option.some.inj h
        exact ⟨_, _, _, .started hover, rfl⟩
      · exact absurd h nofun
  | stopped v =>
      cases Option.some.inj h
      exact ⟨_, _, _, .reset, rfl⟩
  | waiting | ended => exact absurd h nofun

/-! ## The observer -/

/-- A subscriber sees a transition if there is one it has not seen. -/
theorem look_eq_changed_iff {c : Cell} {sub next : Subscription} {v : Status} :
    c.look sub = .changed v next ↔ c.version ≠ sub.seen ∧ v = c.value ∧ next = ⟨c.version⟩ := by
  unfold Cell.look
  split
  · rename_i hnew
    rw [Install.Look.changed.injEq]
    exact ⟨fun ⟨hv, hnext⟩ => ⟨hnew, hv.symm, hnext.symm⟩,
      fun ⟨_, hv, hnext⟩ => ⟨hv.symm, hnext.symm⟩⟩
  · rename_i hold
    refine ⟨fun h => ?_, fun h => absurd h.1 hold⟩
    split at h <;> exact absurd h nofun

/-- The pieces of an observer: the poller and the observer behind each, and what is seen of it. -/
inductive Observer.Step (s : System) (sub : Subscription) :
    Observer → Polling.System → Subscription → Observer → List Effect → Prop where
  | look (hnew : s.cell.version ≠ sub.seen) :
      Step s sub .watching s.polling ⟨s.cell.version⟩ (.acting s.cell.value) []
  | close {p : Polling.System} {seen : List Polling.Effect}
      (hp : s.polling.apply .release = some (p, seen)) :
      Step s sub .watching p sub .ended (seen.map .poller)
  | start {p : Polling.System} {seen : List Polling.Effect}
      (hp : s.polling.apply (.start .none) = some (p, seen)) :
      Step s sub (.acting .install) p sub (.starting s.polling.slots.length) (seen.map .poller)
  | stop {p : Polling.System} {seen : List Polling.Effect}
      (hp : s.polling.apply .stop = some (p, seen)) :
      Step s sub (.acting .uninstall) p sub .stopped (seen.map .poller)
  | started {call : Nat} (hover : s.callIsOver call = true) :
      Step s sub (.starting call) s.polling sub .watching []
  | reset : Step s sub .stopped s.polling sub .watching [.reset]

theorem observer_of_stepObserver {s t : System} {id : Nat} {sub : Subscription}
    {phase : Observer} {effects : List Effect}
    (h : s.stepObserver id sub phase = some (t, effects)) :
    ∃ p sub' next, Observer.Step s sub phase p sub' next effects ∧
      t = { s with polling := p }.setTask id (.observer sub' next) := by
  cases phase with
  | watching =>
      simp only [System.stepObserver] at h
      split at h
      · rename_i v sub' hlook
        obtain ⟨hnew, rfl, rfl⟩ := look_eq_changed_iff.mp hlook
        cases Option.some.inj h
        exact ⟨_, _, _, .look hnew, rfl⟩
      · exact absurd h nofun
      · obtain ⟨⟨u, seen⟩, hpoller, heq⟩ := Option.map_eq_some_iff.mp h
        obtain ⟨p, told, hp, rfl, rfl⟩ := System.poller_eq_some_iff.mp hpoller
        cases heq
        exact ⟨_, _, _, .close hp, rfl⟩
  | acting v =>
      cases v with
      | install =>
          have hbegin : s.beginStart id (fun call => .observer sub (.starting call)) =
              some (t, effects) := h
          obtain ⟨p, seen, hp, rfl, rfl⟩ := System.beginStart_eq_some_iff.mp hbegin
          exact ⟨_, _, _, .start hp, rfl⟩
      | uninstall =>
          obtain ⟨p, seen, hp, rfl, rfl⟩ := System.stopPoller_eq_some_iff.mp h
          exact ⟨_, _, _, .stop hp, rfl⟩
  | starting call =>
      simp only [System.stepObserver] at h
      split at h
      · rename_i hover
        cases Option.some.inj h
        exact ⟨_, _, _, .started hover, rfl⟩
      · exact absurd h nofun
  | stopped =>
      cases Option.some.inj h
      exact ⟨_, _, _, .reset, rfl⟩
  | ended => exact absurd h nofun

/-! ## The periodic checks -/

/-- A piece of a loop sets the status at most, and a loop that has ended has none. -/
theorem loop_of_stepLoop {s t : System} {id : Nat} {settings : Install.Settings} {halting : Bool}
    {phase : Loop} {effects : List Effect}
    (h : s.stepLoop id settings halting phase = some (t, effects)) :
    phase ≠ .ended ∧ ∃ c next, t = { s with cell := c }.setTask id (.loop settings halting next) ∧
      Turn s.cell c effects ∧ Effect.reset ∉ effects := by
  cases phase with
  | spawned =>
      cases Option.some.inj h
      exact ⟨nofun, s.cell, _, rfl, .still rfl rfl rfl, List.not_mem_nil⟩
  | waiting next =>
      simp only [System.stepLoop] at h
      split at h
      · cases Option.some.inj h
        exact ⟨nofun, s.cell, _, rfl, .still rfl rfl rfl,
          fun hreset => absurd (List.mem_singleton.mp hreset) nofun⟩
      · exact absurd h nofun
  | answered next reply =>
      obtain ⟨c, outcome, seen, hreply, hturn, hreset⟩ :=
        turn_applyReply s settings.endpoint reply
      simp only [System.stepLoop, hreply] at h
      cases Option.some.inj h
      refine ⟨nofun, c, .waiting next, rfl, hturn.congr ?_, ?_⟩
      · rw [transitions_append]
        exact List.append_nil _
      · rw [List.mem_append, not_or]
        exact ⟨hreset, fun hnote => absurd (List.mem_singleton.mp hnote) nofun⟩
  | asking next | ended => exact absurd h nofun

/-- A piece of a single check sets the status at most. -/
theorem check_of_stepCheck {s t : System} {id : Nat} {q : Query Install.Outcome}
    {effects : List Effect} (h : s.stepCheck id q = some (t, effects)) :
    ∃ c next, t = { s with cell := c }.setTask id (.check next) ∧ Turn s.cell c effects ∧
      Effect.reset ∉ effects := by
  cases q with
  | ready =>
      cases Option.some.inj h
      exact ⟨s.cell, _, rfl, .still rfl rfl rfl,
        fun hreset => absurd (List.mem_singleton.mp hreset) nofun⟩
  | answered reply =>
      obtain ⟨c, outcome, seen, hreply, hturn, hreset⟩ :=
        turn_applyReply s s.settings.endpoint reply
      simp only [System.stepCheck, hreply] at h
      cases Option.some.inj h
      exact ⟨c, _, rfl, hturn, hreset⟩
  | waiting | ended => exact absurd h nofun

/-- A piece of a single question leaves the status alone. -/
theorem fetch_of_stepFetch {s t : System} {id : Nat} {q : Query Answer}
    {effects : List Effect} (h : s.stepFetch id q = some (t, effects)) :
    ∃ next, t = s.setTask id (.fetch next) ∧ transitions effects = [] ∧
      Effect.reset ∉ effects := by
  cases q with
  | ready =>
      cases Option.some.inj h
      exact ⟨_, rfl, rfl, fun hreset => absurd (List.mem_singleton.mp hreset) nofun⟩
  | answered reply =>
      cases Option.some.inj h
      exact ⟨_, rfl, rfl, List.not_mem_nil⟩
  | waiting | ended => exact absurd h nofun

/-! ## The shutdown -/

theorem System.askToEnd_eq_some_iff {s t : System} {loop : Nat} {effects : List Effect} :
    s.askToEnd loop = some (t, effects) ↔
      ∃ settings halting phase, s.task? loop = some (.loop settings halting phase) ∧
        t = s.setTask loop (.loop settings true phase) ∧ effects = [.told loop] := by
  unfold System.askToEnd
  constructor
  · intro h
    split at h
    · rename_i settings halting phase htask
      cases Option.some.inj h
      exact ⟨settings, halting, phase, htask, rfl, rfl⟩
    · exact absurd h nofun
  · rintro ⟨settings, halting, phase, htask, rfl, rfl⟩
    rw [htask]

/-- The observer is told to end, and the poller's task it waits for with it. -/
theorem System.abortObserver_cases (s : System) (observer : Nat) :
    ∃ p seen, (p = s.polling ∧ seen = [] ∨
        ∃ call, s.polling.apply (.abort call) = some (p, seen)) ∧
      s.abortObserver observer =
        ({ s.markAborted observer with polling := p }, .told observer :: seen.map .poller) := by
  have hunmarked : s.abortObserver observer = (s.markAborted observer, [.told observer]) →
      ∃ p seen, (p = s.polling ∧ seen = [] ∨
          ∃ call, s.polling.apply (.abort call) = some (p, seen)) ∧
        s.abortObserver observer =
          ({ s.markAborted observer with polling := p }, .told observer :: seen.map .poller) :=
    fun h => ⟨s.polling, [], Or.inl ⟨rfl, rfl⟩, h⟩
  cases hcall : (s.task? observer).bind (·.call?) with
  | none => exact hunmarked (by simp only [System.abortObserver, hcall])
  | some call =>
      cases hpoller : (s.markAborted observer).poller (.abort call) with
      | none => exact hunmarked (by simp only [System.abortObserver, hcall, hpoller])
      | some r =>
          obtain ⟨p, seen, hp, ht, heffects⟩ := System.poller_eq_some_iff.mp hpoller
          refine ⟨p, seen, Or.inr ⟨call, hp⟩, ?_⟩
          simp only [System.abortObserver, hcall, hpoller, ht, heffects]

/-- The pieces of the shutdown of an observer and a loop. -/
inductive Shutdown.Step (s : System) (id observer loop : Nat) :
    Shutdown → System → List Effect → Prop where
  | signal {settings : Install.Settings} {halting : Bool} {phase : Loop}
      (hloop : s.task? loop = some (.loop settings halting phase)) :
      Step s id observer loop .signalling
        ((s.setTask loop (.loop settings true phase)).setTask id (.shutdown observer loop .joining))
        [.told loop]
  | join (hended : s.loopHasEnded loop = true) :
      Step s id observer loop .joining (s.setTask id (.shutdown observer loop .aborting)) []
  | relieve {p : Polling.System} {seen : List Polling.Effect}
      (hp : p = s.polling ∧ seen = [] ∨ ∃ call, s.polling.apply (.abort call) = some (p, seen)) :
      Step s id observer loop .aborting
        ({ s.markAborted observer with polling := p }.setTask id (.shutdown observer loop .stopping))
        (.told observer :: seen.map .poller)
  | stop {p : Polling.System} {seen : List Polling.Effect}
      (hp : s.polling.apply .stop = some (p, seen)) :
      Step s id observer loop .stopping
        ({ s with polling := p }.setTask id (.shutdown observer loop .releasing)) (seen.map .poller)
  | release {p : Polling.System} {seen : List Polling.Effect}
      (hp : s.polling.apply .release = some (p, seen)) :
      Step s id observer loop .releasing
        ({ s with polling := p, cell := s.cell.release }.setTask id (.shutdown observer loop .ended))
        (seen.map .poller)

theorem shutdown_of_stepShutdown {s t : System} {id observer loop : Nat} {phase : Shutdown}
    {effects : List Effect} (h : s.stepShutdown id observer loop phase = some (t, effects)) :
    Shutdown.Step s id observer loop phase t effects := by
  cases phase with
  | signalling =>
      obtain ⟨⟨u, seen⟩, hask, heq⟩ := Option.map_eq_some_iff.mp h
      obtain ⟨settings, halting, phase, htask, rfl, rfl⟩ := System.askToEnd_eq_some_iff.mp hask
      cases heq
      exact .signal htask
  | joining =>
      simp only [System.stepShutdown] at h
      split at h
      · rename_i hended
        cases Option.some.inj h
        exact .join hended
      · exact absurd h nofun
  | aborting =>
      obtain ⟨p, seen, hp, habort⟩ := s.abortObserver_cases observer
      simp only [System.stepShutdown, habort] at h
      cases Option.some.inj h
      exact .relieve hp
  | stopping =>
      obtain ⟨p, seen, hp, rfl, rfl⟩ := System.stopPoller_eq_some_iff.mp h
      exact .stop hp
  | releasing =>
      obtain ⟨⟨u, seen⟩, hrelease, heq⟩ := Option.map_eq_some_iff.mp h
      obtain ⟨p, told, hp, rfl, rfl⟩ := System.releaseHandles_eq_some_iff.mp hrelease
      cases heq
      exact .release hp
  | ended => exact absurd h nofun

end AlarmMonitor.Watch
