import AlarmMonitor.Proofs.Polling.Call
import AlarmMonitor.Proofs.Watch.Crew

/-!
# The course of a watch

What is said of a watch is said of its course: the launch goes on, returns, and everything else
happens since.  A rule says what may happen beside the watch's own tasks, and it is asked at every
moment.

* `System.heeds`, `heeding_induction`: a run under a rule, and what it keeps;
* `System.unaided`, `System.secluded`: nobody else starts or stops the poller, and nobody else
  sets the status before the launch has returned;
* `Course`: a run of a watch whose launch has returned;
* `Course.opening`, `Course.settled`: what holds at the return, and at every moment since.
-/

set_option autoImplicit false

namespace AlarmMonitor.Watch

open AlarmMonitor.Install (Status Cell Subscription)

/-- Has the launch returned? -/
def Task.isLaunched : Task → Bool
  | .launched .. => true
  | _ => false

namespace System

/-! ## Rules -/

/-- Does the event leave the watch to one launch, and starting and stopping of its poller to the
watch? -/
def unaided (s : System) (e : Event) : Bool :=
  s.admits e &&
    match e.poller? with
    | some pe => s.polling.abstains pe
    | none => true

/-- Does the event besides leave the status to the watch until the launch has returned, and drop
no handle on the poller that the watch holds? -/
def secluded (s : System) (e : Event) : Bool :=
  s.unaided e &&
    match e with
    | .set _ => s.slots.any (·.task.isLaunched)
    | .poller .release | .dropHandle _ => 1 < s.polling.handles
    | _ => true

/-- Does every event of the run heed the rule at its moment? -/
def heeds (rule : System → Event → Bool) (s : System) : List Event → Bool
  | [] => true
  | e :: rest =>
    rule s e &&
      match s.apply e with
      | some (t, _) => t.heeds rule rest
      | none => true

variable {rule : System → Event → Bool}

theorem admits_of_unaided {s : System} {e : Event} (h : s.unaided e = true) :
    s.admits e = true := (Bool.and_eq_true_iff.mp h).1

theorem abstains_of_unaided {s : System} {e : Event} {pe : Polling.Event}
    (h : s.unaided e = true) (he : e.poller? = some pe) : s.polling.abstains pe = true := by
  have hpoller := (Bool.and_eq_true_iff.mp h).2
  rw [he] at hpoller
  exact hpoller

theorem unaided_of_secluded {s : System} {e : Event} (h : s.secluded e = true) :
    s.unaided e = true := (Bool.and_eq_true_iff.mp h).1

/-! ## Runs -/

theorem run_cons_eq_some_iff {s u : System} {e : Event} {rest : List Event}
    {effects : List Effect} :
    s.run (e :: rest) = some (u, effects) ↔
      ∃ t first later, s.apply e = some (t, first) ∧ t.run rest = some (u, later) ∧
        effects = first ++ later := by
  constructor
  · intro h
    obtain ⟨⟨t, first⟩, happly, hrest⟩ := Option.bind_eq_some_iff.mp h
    obtain ⟨⟨v, later⟩, hrun, heq⟩ := Option.bind_eq_some_iff.mp hrest
    cases heq
    exact ⟨t, first, later, happly, hrun, rfl⟩
  · rintro ⟨t, first, later, happly, hrun, rfl⟩
    refine Option.bind_eq_some_iff.mpr ⟨(t, first), happly, ?_⟩
    exact Option.bind_eq_some_iff.mpr ⟨(u, later), hrun, rfl⟩

theorem heeds_cons {s t : System} {e : Event} {rest : List Event} {effects : List Effect}
    (happly : s.apply e = some (t, effects)) :
    s.heeds rule (e :: rest) = true ↔ rule s e = true ∧ t.heeds rule rest = true := by
  simp only [heeds, happly, Bool.and_eq_true]

theorem heeds_append {s t : System} {first rest : List Event} {effects : List Effect}
    (hrun : s.run first = some (t, effects)) :
    s.heeds rule (first ++ rest) = true ↔
      s.heeds rule first = true ∧ t.heeds rule rest = true := by
  induction first generalizing s effects with
  | nil =>
      cases hrun
      exact ⟨fun h => ⟨rfl, h⟩, fun h => h.2⟩
  | cons e later ih =>
      obtain ⟨u, seen, more, happly, hrest, rfl⟩ := run_cons_eq_some_iff.mp hrun
      rw [List.cons_append, heeds_cons happly, heeds_cons happly, ih hrest, and_assoc]

/-- What every transition under the rule keeps is kept by a run under the rule; it may speak of
what was seen so far. -/
theorem heeding_induction {P : List Effect → System → Prop}
    (hstep : ∀ {seen s t e effects}, P seen s → rule s e = true →
      s.apply e = some (t, effects) → P (seen ++ effects) t)
    {s t : System} {events : List Event} {effects : List Effect} (seen : List Effect)
    (hs : P seen s) (hheeds : s.heeds rule events = true)
    (hrun : s.run events = some (t, effects)) : P (seen ++ effects) t := by
  induction events generalizing s effects seen with
  | nil =>
      cases hrun
      rw [List.append_nil]
      exact hs
  | cons e rest ih =>
      obtain ⟨u, first, later, happly, hrest, rfl⟩ := run_cons_eq_some_iff.mp hrun
      obtain ⟨hrule, hlater⟩ := (heeds_cons happly).mp hheeds
      rw [← List.append_assoc]
      exact ih _ (hstep hs hrule happly) hlater hrest

/-! ## Before the launch -/

/-- A watch that was built has taken options into its poller, and nothing else has happened. -/
theorem build_eq (hint : String) (options : Polling.Options) (settings : Install.Settings)
    (initial : Status) :
    ∃ p seen, (Polling.System.new hint).apply (.configure options) = some (p, seen) ∧
      build hint options settings initial = { new hint settings initial with polling := p } := by
  cases hp : (Polling.System.new hint).apply (.configure options) with
  | none => exact absurd hp nofun
  | some r =>
      obtain ⟨p, seen⟩ := r
      have hpoller : (new hint settings initial).poller (.configure options) =
          some ({ new hint settings initial with polling := p }, seen.map .poller) :=
        poller_eq_some_iff.mpr ⟨p, seen, hp, rfl, rfl⟩
      refine ⟨p, seen, rfl, ?_⟩
      simp only [build, hpoller]

theorem manned_build (hint : String) (options : Polling.Options) (settings : Install.Settings)
    (initial : Status) : (build hint options settings initial).Manned := by
  obtain ⟨p, seen, hp, heq⟩ := build_eq hint options settings initial
  rw [heq]
  exact ⟨fun h => absurd h nofun, fun h => absurd h nofun, fun h => absurd h nofun,
    fun h => absurd h nofun, (Polling.System.reachable_new hint).apply hp⟩

/-! ## Idle observers -/

/-- Does the observer wait for a transition, with none that it has not seen? -/
def isIdle (s : System) (observer : Nat) : Bool :=
  match s.duty? observer with
  | some (sub, .watching) => sub.seen == s.cell.version
  | _ => false

theorem isIdle_iff {s : System} {observer : Nat} :
    s.isIdle observer = true ↔
      ∃ sub, s.duty? observer = some (sub, .watching) ∧ sub.seen = s.cell.version := by
  unfold isIdle
  constructor
  · intro h
    split at h
    · rename_i sub hduty
      exact ⟨sub, hduty, beq_iff_eq.mp h⟩
    · exact absurd h nofun
  · rintro ⟨sub, hduty, hseen⟩
    rw [hduty]
    exact beq_iff_eq.mpr hseen

/-! ## Behind the return -/

/-- A watch whose only launch is over. -/
structure Settled (s : System) : Prop extends Manned s where
  past : ∀ phase, ¬ s.Boots phase

theorem Settled.apply {s t : System} {e : Event} {effects : List Effect} (hs : s.Settled)
    (he : s.admits e = true) (h : s.apply e = some (t, effects)) : t.Settled := by
  have hact := act_of_apply h
  refine ⟨hs.toManned.act he hact, fun phase hboots => ?_⟩
  cases boots_of_act hs.toManned he hact hboots with
  | steps hbefore | stays hbefore | answered hbefore => exact hs.past _ hbefore

theorem Settled.launch_ne {s : System} (hs : s.Settled) (phase : Boot) :
    s.task? 0 ≠ some (.launch phase) := fun htask => hs.past phase (Or.inl htask)

/-- An observer on duty took its next piece, or was left alone. -/
theorem Settled.tends {s t : System} {e : Event} {effects : List Effect} {sub : Subscription}
    {phase : Observer} (hs : s.Settled) (he : s.admits e = true)
    (h : s.apply e = some (t, effects)) (hduty : t.duty? 1 = some (sub, phase)) :
    s.Tends e t effects sub phase :=
  duty_of_act hs.toManned hs.launch_ne he (act_of_apply h) hduty

/-- The piece in which a launch returns. -/
theorem launched_of_apply {s t : System} {id : Nat} {result : Option Status}
    {effects : List Effect} (htask : s.task? id = some (.launch (.ended result)))
    (h : s.apply (.step id) = some (t, effects)) :
    ∃ p seen, s.polling.apply .retain = some (p, seen) ∧
      t = (({ s with polling := p }.addTask (.observer s.cell.subscribe .watching)).addTask
        (.loop s.settings false .spawned)).setTask id
          (.launched s.slots.length (s.slots.length + 1)) ∧
      effects = seen.map .poller ++
        [.spawned s.slots.length, .spawned (s.slots.length + 1)] := by
  obtain ⟨⟨u, seen⟩, hpoller, heq⟩ := Option.map_eq_some_iff.mp (stepTask_of_apply htask h)
  obtain ⟨p, told, hp, rfl, rfl⟩ := poller_eq_some_iff.mp hpoller
  cases heq
  exact ⟨p, told, hp, rfl, rfl⟩

end System

/-! ## Courses -/

/-- A run of a watch whose launch has returned, with every event heeding the rule. -/
structure Course (rule : System → Event → Bool) (new : System) where
  /-- Up to the return of the launch. -/
  first : List Event
  ended : System
  before : List Effect
  launch : Nat
  /-- What the check at boot found. -/
  result : Option Status
  /-- The return of the launch. -/
  returned : System
  told : List Effect
  observer : Nat
  loop : Nat
  /-- Since the return. -/
  rest : List Event
  last : System
  since : List Effect
  run_first : new.run first = some (ended, before)
  boot_ended : ended.task? launch = some (.launch (.ended result))
  returns : ended.apply (.step launch) = some (returned, told)
  launched : returned.task? launch = some (.launched observer loop)
  run_rest : returned.run rest = some (last, since)
  heeds : new.heeds rule (first ++ .step launch :: rest) = true

namespace Course

variable {rule : System → Event → Bool} {new : System} (c : Course rule new)

theorem heeds_first : new.heeds rule c.first = true :=
  ((System.heeds_append c.run_first).mp c.heeds).1

theorem rule_return : rule c.ended (.step c.launch) = true :=
  ((System.heeds_cons c.returns).mp ((System.heeds_append c.run_first).mp c.heeds).2).1

theorem heeds_rest : c.returned.heeds rule c.rest = true :=
  ((System.heeds_cons c.returns).mp ((System.heeds_append c.run_first).mp c.heeds).2).2

/-- What the return of a launch leaves behind. -/
structure Opening : Prop where
  observer_eq : c.observer = 1
  loop_eq : c.loop = 2
  settled : c.returned.Settled
  polling : ∃ seen, c.ended.polling.apply .retain = some (c.returned.polling, seen)
  cell : c.returned.cell = c.ended.cell
  duty : c.returned.duty? c.observer = some (⟨c.returned.cell.version⟩, .watching)
  transitions : transitions c.told = []
  reset : Effect.reset ∉ c.told

section

variable (hrule : ∀ {s e}, rule s e = true → s.admits e = true) (hnew : new.Manned)
include hrule hnew

theorem manned_ended : c.ended.Manned :=
  System.heeding_induction (P := fun _ s => s.Manned)
    (fun hs he happly => hs.act (hrule he) (System.act_of_apply happly)) [] hnew c.heeds_first
    c.run_first

theorem launch_eq : c.launch = 0 := by
  have hcrew := (c.manned_ended hrule hnew).crew c.boot_ended
  generalize c.launch = id at hcrew
  cases hcrew
  rfl

/-- The check at boot has ended before the return. -/
theorem boots_ended : c.ended.Boots (.ended c.result) := by
  have hboot := c.boot_ended
  rw [c.launch_eq hrule hnew] at hboot
  exact Or.inl hboot

theorem opening : c.Opening := by
  have hmanned := c.manned_ended hrule hnew
  have hlaunch := c.launch_eq hrule hnew
  have hboot := c.boot_ended
  have hreturns := c.returns
  have hlaunched := c.launched
  have hadmits := hrule c.rule_return
  rw [hlaunch] at hboot hreturns hlaunched hadmits
  have hlength := hmanned.alone hboot
  have hreturned := hmanned.act hadmits (System.act_of_apply hreturns)
  obtain ⟨p, seen, hp, ht, htold⟩ := System.launched_of_apply hboot hreturns
  obtain ⟨slot, hslots⟩ := List.length_eq_one_iff.mp hlength
  have hcells : c.returned.cell = c.ended.cell ∧ c.returned.polling = p := by
    rw [ht]
    exact ⟨rfl, rfl⟩
  have hplaces : Task.launched c.observer c.loop = .launched 1 2 := by
    rw [ht, hlength] at hlaunched
    rcases System.task?_setTask_eq_some hlaunched with ⟨_, heq⟩ | ⟨hne, _⟩
    · exact heq
    · exact absurd rfl hne
  obtain ⟨hobserver, hloop⟩ := Task.launched.inj hplaces
  obtain ⟨hsame, hreset⟩ := plain_map_poller seen
  refine ⟨hobserver, hloop, ⟨hreturned, ?_⟩, ⟨seen, hcells.2.symm ▸ hp⟩, hcells.1, ?_, ?_, ?_⟩
  · rintro phase (hphase | ⟨hnil, _⟩)
    · exact absurd (hlaunched.symm.trans hphase) nofun
    · rw [System.task?, hnil] at hlaunched
      exact absurd hlaunched nofun
  · rw [hobserver, System.duty?_eq_some_iff, hcells.1, ht]
    simp only [System.setTask, System.addTask, hslots]
    rfl
  · rw [htold, transitions_append, hsame]
    rfl
  · rw [htold, List.mem_append, not_or]
    refine ⟨hreset, fun hspawned => ?_⟩
    simp only [List.mem_cons, List.not_mem_nil, or_false, reduceCtorEq] at hspawned

/-- At every moment since the return the launch is over. -/
theorem settled : c.last.Settled :=
  System.heeding_induction (P := fun _ s => s.Settled)
    (fun hs he happly => hs.apply (hrule he) happly) [] (c.opening hrule hnew).settled
    c.heeds_rest c.run_rest

end

/-! ## Courses behind a check that finds nothing -/

/-- A launch whose check finds nothing, up to its return. -/
def failedBoot : List Event := [.launch, .step 0, .deliver 0 (.failure "down"), .step 0]

/-- A watch whose launch has returned with a check that found nothing. -/
def unreported (initial : Status) : System × List Effect :=
  ((System.build "" .none .standard initial).run (failedBoot ++ [.step 0])).get rfl

/-- The course of whatever events follow the return of such a launch. -/
def afterFailedBoot (initial : Status) (rest : List Event) {last : System} {since : List Effect}
    (run_rest : (unreported initial).1.run rest = some (last, since))
    (heeds : (System.build "" .none .standard initial).heeds rule
      (failedBoot ++ .step 0 :: rest) = true) :
    Course rule (.build "" .none .standard initial) :=
  ⟨failedBoot, _, _, 0, none, (unreported initial).1, _, 1, 2, rest, last, since, rfl, rfl, rfl,
    rfl, run_rest, heeds⟩

/-- The next check of the loop, at which the backend names the status. -/
def report (v : Status) : List Event :=
  [.poller (.tick (.ofMillis 10000)), .step 2,
    .deliver 2 (.body ("\x7b\"state\":" ++ v.json ++ "\x7d")), .step 2]

end Course

end AlarmMonitor.Watch
