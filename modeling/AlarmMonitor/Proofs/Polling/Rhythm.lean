import AlarmMonitor.Proofs.Polling.Debounce
import AlarmMonitor.Proofs.Polling.Tenure

/-!
# The rhythm of a run

A timer looks for the interval that is configured, sleeps so long, and runs a cycle.  The rhythm of
a run holds when the cycles of its sessions begin and end and when the timers lie down.

* `System.rhythm`, `beatsOf`: the rhythm of a run, and of one session in it;
* `Task.Pace`, `System.Paced`: where the rhythm of a session stands, by the point at which the task
  stands that holds it;
* `System.asleep_of_rhythm`: in front of a scheduled cycle, the cycle before has ended and the timer
  has slept.
-/

set_option autoImplicit false

namespace AlarmMonitor.Polling

/-! ## The rhythm of a run -/

/-- What marks the time of a session. -/
inductive Beat where
  /-- A cycle begins: one of the timer, or that of the start. -/
  | began (session : Nat) (scheduled : Bool)
  /-- A cycle ends. -/
  | over (session : Nat) (outcome : Outcome)
  /-- The timer lies down for the interval that is configured. -/
  | slept (session : Nat) (interval : Duration)
  deriving DecidableEq, Repr

/-- The session of a beat. -/
def Beat.session : Beat → Nat
  | .began session _ | .over session _ | .slept session _ => session

/-- The beats of a step of a cycle. -/
def Cycle.beats (session : Nat) (scheduled : Bool) (before behind : Cycle) : List Beat :=
  (if before = .ready then [.began session scheduled] else []) ++
    match behind with
    | .ended outcome => [.over session outcome]
    | _ => []

/-- The beats of a piece of a task, with the interval that is configured. -/
def Task.beats (interval : Duration) : Task → Task → List Beat
  | .start (.cycling session before), .start (.cycling _ behind) =>
    before.beats session false behind
  | .timer session (.cycling before), .timer _ (.cycling behind) =>
    before.beats session true behind
  | .timer session _, .timer _ (.sleeping _) => [.slept session interval]
  | _, _ => []

namespace System

/-- The beats of a transition, with their instant. -/
def beats (s : System) (e : Event) (t : System) : List (Nat × Beat) :=
  match e with
  | .step id =>
    match s.task? id, t.task? id with
    | some before, some behind =>
      (before.beats s.state.config.interval behind).map fun x => (s.now, x)
    | _, _ => []
  | _ => []

/-- The beats of a run. -/
def rhythm (s : System) (events : List Event) : List (Nat × Beat) :=
  s.record (fun s e t _ => s.beats e t) events

end System

/-- The beats of one session. -/
def beatsOf (session : Nat) (line : List (Nat × Beat)) : List (Nat × Beat) :=
  line.filter (·.2.session == session)

theorem beatsOf_append (session : Nat) (line more : List (Nat × Beat)) :
    beatsOf session (line ++ more) = beatsOf session line ++ beatsOf session more :=
  List.filter_append ..

theorem beatsOf_of_others {session : Nat} {line : List (Nat × Beat)}
    (h : ∀ x ∈ line, x.2.session ≠ session) : beatsOf session line = [] :=
  List.filter_eq_nil_iff.mpr fun x hx heq => h x hx (beq_iff_eq.mp heq)

theorem Cycle.session_of_mem_beats {session : Nat} {scheduled : Bool} {before behind : Cycle}
    {x : Beat} (h : x ∈ Cycle.beats session scheduled before behind) : x.session = session := by
  unfold Cycle.beats at h
  rcases List.mem_append.mp h with hbegan | hover
  · split at hbegan
    · rw [List.mem_singleton.mp hbegan]
      rfl
    · exact absurd hbegan List.not_mem_nil
  · split at hover
    · rw [List.mem_singleton.mp hover]
      rfl
    · exact absurd hover List.not_mem_nil

/-- The beats of a deed are those of a session that its task holds. -/
theorem Deed.holds_of_mem_beats {c : Context} {s : State} {t : Task} {p : Piece}
    {interval : Duration} {x : Beat} (h : Deed c s t p) (hx : x ∈ t.beats interval p.task) :
    t.Holds x.session := by
  cases h with
  | @cycle owner _ cycle next _ _ ht =>
      subst ht
      cases owner with
      | start n => exact Or.inl (congrArg Role.opening (Cycle.session_of_mem_beats hx).symm)
      | poll => exact absurd hx List.not_mem_nil
      | timer n => exact Or.inr (congrArg Role.timer (Cycle.session_of_mem_beats hx).symm)
  | lieDown hphase =>
      rcases hphase with rfl | rfl
      · rw [List.mem_singleton.mp hx]
        exact Or.inr rfl
      · rw [List.mem_singleton.mp hx]
        exact Or.inr rfl
  | undo hphase | release hphase => cases hphase <;> exact absurd hx List.not_mem_nil
  | retire hphase => cases hphase <;> exact absurd hx List.not_mem_nil
  | refuse | enter | firstOver | arm | pass | wake | scheduledOver =>
      exact absurd hx List.not_mem_nil

/-! ## Where the rhythm of a session stands -/

/-- The last beat of the session is the end of a cycle, not ahead. -/
def Resting (line : List (Nat × Beat)) (now session : Nat) : Prop :=
  ∃ early ended outcome,
    beatsOf session line = early ++ [(ended, .over session outcome)] ∧ ended ≤ now

/-- The last beats of the session are the end of a cycle and a timer that lay down behind it, for an
interval that ends at the instant and is not below the floor. -/
def Asleep (line : List (Nat × Beat)) (session wakeAt : Nat) : Prop :=
  ∃ early ended outcome lay interval,
    beatsOf session line =
      early ++ [(ended, .over session outcome), (lay, .slept session interval)] ∧
    ended ≤ lay ∧ wakeAt = lay + interval.nanos ∧ minInterval ≤ interval

/-- Where the rhythm of a session stands, by the point at which the task stands that holds it. -/
def Task.Pace (line : List (Nat × Beat)) (now : Nat) : Task → Prop
  | .start (.cycling session (.ended _)) | .start (.arming session)
  | .timer session .spawned | .timer session .checking
  | .timer session (.cycling (.ended _)) => Resting line now session
  | .timer session (.sleeping wakeAt) => Asleep line session wakeAt
  | .timer session (.cycling .ready) => ∃ wakeAt, wakeAt ≤ now ∧ Asleep line session wakeAt
  | _ => True

section

variable {line more : List (Nat × Beat)} {now later session wakeAt : Nat}

theorem Resting.congr (h : Resting line now session) (hlater : now ≤ later)
    (hline : beatsOf session more = beatsOf session line) : Resting more later session := by
  obtain ⟨early, ended, outcome, hbeats, hended⟩ := h
  exact ⟨early, ended, outcome, hline.trans hbeats, Nat.le_trans hended hlater⟩

theorem Asleep.congr (h : Asleep line session wakeAt)
    (hline : beatsOf session more = beatsOf session line) : Asleep more session wakeAt := by
  obtain ⟨early, ended, outcome, lay, interval, hbeats, hrest⟩ := h
  exact ⟨early, ended, outcome, lay, interval, hline.trans hbeats, hrest⟩

/-- The rhythm of a session stands still while nothing is added to it. -/
theorem Task.Pace.congr {t : Task} (h : t.Pace line now) (hlater : now ≤ later)
    (hline : ∀ n, t.Holds n → beatsOf n more = beatsOf n line) : t.Pace more later := by
  cases t with
  | start phase =>
      cases phase with
      | cycling n cycle =>
          cases cycle with
          | ended => exact Resting.congr h hlater (hline n (Or.inl rfl))
          | ready | waiting | answered | showing => trivial
      | arming n => exact Resting.congr h hlater (hline n (Or.inl rfl))
      | entering | leaving | cancelled | returned => trivial
  | timer n phase =>
      cases phase with
      | spawned | checking => exact Resting.congr h hlater (hline n (Or.inr rfl))
      | sleeping => exact Asleep.congr h (hline n (Or.inr rfl))
      | cycling cycle =>
          cases cycle with
          | ready =>
              obtain ⟨wakeAt, hawake, hasleep⟩ := h
              exact ⟨wakeAt, Nat.le_trans hawake hlater, hasleep.congr (hline n (Or.inr rfl))⟩
          | ended => exact Resting.congr h hlater (hline n (Or.inr rfl))
          | waiting | answered | showing => trivial
      | ended => trivial
  | poll | gone => trivial

/-- Behind the end of a cycle. -/
theorem resting_of_ended (session : Nat) (scheduled : Bool) (before : Cycle) (outcome : Outcome) :
    Resting (line ++ (before.beats session scheduled (.ended outcome)).map fun x => (now, x)) now
      session := by
  refine ⟨beatsOf session (line ++ (if before = .ready then [.began session scheduled] else []).map
    fun x => (now, x)), now, outcome, ?_, Nat.le_refl _⟩
  have hover : beatsOf session [(now, .over session outcome)] = [(now, .over session outcome)] :=
    List.filter_cons_of_pos (beq_self_eq_true session)
  rw [Cycle.beats, List.map_append, ← List.append_assoc, beatsOf_append]
  exact congrArg _ hover

/-- A timer that lies down behind the end of a cycle. -/
theorem Resting.sleep (h : Resting line now session) {interval : Duration}
    (hfloor : minInterval ≤ interval) :
    Asleep (line ++ [(now, .slept session interval)]) session (now + interval.nanos) := by
  obtain ⟨early, ended, outcome, hbeats, hended⟩ := h
  refine ⟨early, ended, outcome, now, interval, ?_, hended, rfl, hfloor⟩
  have hslept : beatsOf session [(now, .slept session interval)] =
      [(now, .slept session interval)] := List.filter_cons_of_pos (beq_self_eq_true session)
  rw [beatsOf_append, hbeats, hslept, List.append_assoc]
  rfl

end

/-- A deed moves the rhythm of its session on. -/
theorem Deed.pace {c : Context} {s : State} {t : Task} {p : Piece} {line : List (Nat × Beat)}
    (h : Deed c s t p) (hfloor : minInterval ≤ s.config.interval) (ht : t.Pace line c.now) :
    p.task.Pace (line ++ (t.beats s.config.interval p.task).map fun x => (c.now, x)) c.now := by
  cases h with
  | @cycle owner _ cycle next _ _ htask hstep =>
      subst htask
      have hready := hstep.ne_ready
      cases owner with
      | start n =>
          cases next with
          | ended outcome => exact resting_of_ended n false cycle outcome
          | ready | waiting | answered | showing => trivial
      | poll => trivial
      | timer n =>
          cases next with
          | ready => exact absurd rfl hready
          | ended outcome => exact resting_of_ended n true cycle outcome
          | waiting | answered | showing => trivial
  | lieDown hphase =>
      rcases hphase with rfl | rfl
      · exact Resting.sleep ht hfloor
      · exact Resting.sleep ht hfloor
  | wake hawake =>
      rw [← List.append_nil line] at ht
      exact ⟨_, hawake, ht⟩
  | firstOver | scheduledOver =>
      rw [← List.append_nil line] at ht
      exact ht
  | undo hphase | release hphase => cases hphase <;> trivial
  | refuse | enter | arm | pass | retire => trivial

namespace System

/-- Where the rhythms of all sessions stand. -/
def Paced (line : List (Nat × Beat)) (s : System) : Prop :=
  ∀ place t, s.task? place = some t → t.Pace line s.now

theorem paced_new (hint : String) : Paced [] (new hint) := fun _ _ h => absurd h nofun

/-- The beats of a transition are those of one task and of a session that it holds. -/
theorem holds_of_mem_beats {s t : System} {e : Event} {told : List Effect} {x : Nat × Beat}
    (h : s.apply e = some (t, told)) (hx : x ∈ s.beats e t) :
    ∃ place task, e = .step place ∧ s.task? place = some task ∧ task.Holds x.2.session := by
  cases e with
  | step place =>
      obtain ⟨u, hact, _⟩ := apply_eq_some_iff.mp h
      obtain ⟨slot, _, hslot, _⟩ := step_eq_some_iff.mp hact
      have htask : s.task? place = some slot.task := task?_eq_some_iff.mpr ⟨slot, hslot, rfl⟩
      obtain ⟨p, hdeed, _, _, hnext⟩ := deed_of_step htask h
      simp only [beats, htask, hnext] at hx
      obtain ⟨beat, hbeat, rfl⟩ := List.mem_map.mp hx
      exact ⟨place, slot.task, rfl, htask, hdeed.holds_of_mem_beats hbeat⟩
  | start | poll | deliver | abort | drop | configure | stop | clearHistory | tick | retain
  | release => exact absurd hx List.not_mem_nil

/-- A task that takes no step in a transition holds the session of none of its beats. -/
theorem beatsOf_of_kept {s t : System} {e : Event} {told : List Effect} {place session : Nat}
    {task : Task} (hreach : Reachable s) (h : s.apply e = some (t, told)) (he : e ≠ .step place)
    (htask : s.task? place = some task) (hold : task.Holds session) :
    beatsOf session (s.beats e t) = [] := by
  refine beatsOf_of_others fun x hx heq => he ?_
  obtain ⟨other, task', hstep, htask', hold'⟩ := holds_of_mem_beats h hx
  rw [heq] at hold'
  rw [hstep, (tenure_of_reachable hreach).unique htask' htask hold' hold]

/-- Every transition moves the rhythms of the sessions on. -/
theorem Paced.apply {line : List (Nat × Beat)} {s t : System} {e : Event} {told : List Effect}
    (hs : s.Paced line) (hreach : Reachable s) (h : s.apply e = some (t, told)) :
    t.Paced (line ++ s.beats e t) := by
  have hsound := sound_of_reachable hreach
  have hnow : s.now ≤ t.now := (pulse_of_apply hsound h).2
  intro place task htask
  have hfate := fate_of_apply h place
  rw [htask] at hfate
  generalize hbefore : s.task? place = before at hfate
  cases hfate with
  | kept he =>
      refine (hs place task hbefore).congr hnow fun n hold => ?_
      rw [beatsOf_append, beatsOf_of_kept hreach h he hbefore hold, List.append_nil]
  | called hcall => rcases hcall with ⟨_, rfl⟩ | ⟨_, _, rfl⟩ <;> trivial
  | @spawned id session he _ _ hstart =>
      have hresting : Resting line s.now session := hs id _ hstart
      refine hresting.congr hnow ?_
      have hnone : beatsOf session (s.beats e t) = [] := by
        refine beatsOf_of_others fun x hx _ => ?_
        subst he
        obtain ⟨p, hdeed, _, _, hnext⟩ := deed_of_step hstart h
        simp only [beats, hstart, hnext] at hx
        obtain ⟨beat, hbeat, _⟩ := List.mem_map.mp hx
        exact absurd hbeat List.not_mem_nil
      rw [beatsOf_append, hnone, List.append_nil]
  | @stepped slot p he _ _ hp =>
      have hpace := (Task.deed_of_piece hp).pace hsound.interval (hs place _ hbefore)
      have hbeats : s.beats e t =
          (slot.task.beats s.state.config.interval p.task).map fun x => (s.now, x) := by
        subst he
        simp only [beats, hbefore, htask]
      rw [hbeats]
      exact hpace.congr hnow fun _ _ => rfl
  | delivered _ hnext =>
      obtain ⟨owner, session, endpoint, _, rfl⟩ := Task.answered_of_deliver hnext
      cases owner <;> trivial
  | @dropped before' =>
      rcases before'.dropped_cases with hgone | ⟨_, hguard⟩
      · rw [hgone]
        trivial
      · rw [hguard]
        trivial

end System

/-! ## The beginning of a scheduled cycle -/

/-- The steps of a cycle mark its beginning once, and before anything else. -/
theorem Cycle.began_of_beats {session n : Nat} {scheduled flag : Bool} {before behind : Cycle}
    {early late : List Beat}
    (h : Cycle.beats session scheduled before behind = early ++ .began n flag :: late) :
    before = .ready ∧ session = n ∧ scheduled = flag ∧ early = [] := by
  obtain ⟨tail, hbeats, htail⟩ : ∃ tail,
      Cycle.beats session scheduled before behind =
        (if before = .ready then [.began session scheduled] else []) ++ tail ∧
      ∀ front, tail ≠ front ++ .began n flag :: late := by
    refine ⟨_, rfl, fun front heq => ?_⟩
    split at heq
    · cases front with
      | nil => exact absurd (List.cons.inj heq).1 nofun
      | cons x front => exact absurd (List.cons.inj heq).2.symm (by simp)
    · exact absurd heq.symm (by simp)
  rw [hbeats] at h
  by_cases hready : before = .ready
  · rw [if_pos hready] at h
    cases early with
    | nil =>
        cases (List.cons.inj h).1
        exact ⟨hready, rfl, rfl, rfl⟩
    | cons x early => exact absurd (List.cons.inj h).2 (htail early)
  · rw [if_neg hready] at h
    exact absurd h (htail early)

theorem Task.began_of_beats {interval : Duration} {t next : Task} {n : Nat}
    {early late : List Beat} (h : t.beats interval next = early ++ .began n true :: late) :
    t = .timer n (.cycling .ready) ∧ early = [] := by
  unfold Task.beats at h
  split at h
  · exact absurd (Cycle.began_of_beats h).2.2.1 Bool.false_ne_true
  · obtain ⟨rfl, rfl, _, rfl⟩ := Cycle.began_of_beats h
    exact ⟨rfl, rfl⟩
  · cases early with
    | nil => exact absurd (List.cons.inj h).1 nofun
    | cons x early => exact absurd (List.cons.inj h).2.symm (by simp)
  · exact absurd h.symm (by simp)

namespace System

/-- Where a scheduled cycle begins, its timer has slept behind the end of the cycle before. -/
theorem asleep_of_began {line early late : List (Nat × Beat)} {s t : System} {e : Event}
    {told : List Effect} {instant n : Nat} (hs : s.Paced line) (h : s.apply e = some (t, told))
    (hbeats : s.beats e t = early ++ (instant, .began n true) :: late) :
    ∃ wakeAt, wakeAt ≤ instant ∧ Asleep (line ++ early) n wakeAt := by
  have hmem : (instant, Beat.began n true) ∈ s.beats e t := by
    rw [hbeats]
    exact List.mem_append_right _ List.mem_cons_self
  obtain ⟨place, task, rfl, htask, _⟩ := holds_of_mem_beats h hmem
  obtain ⟨p, _, _, _, hnext⟩ := deed_of_step htask h
  simp only [beats, htask, hnext] at hbeats
  obtain ⟨first, last, hsplit, rfl, hlast⟩ := List.map_eq_append_iff.mp hbeats
  obtain ⟨beat, rest, rfl, hbeat, _⟩ := List.map_eq_cons_iff.mp hlast
  cases hbeat
  obtain ⟨rfl, rfl⟩ := Task.began_of_beats hsplit
  rw [List.map_nil, List.append_nil]
  exact hs place _ htask

/-- In front of every scheduled cycle of a run, its timer has slept behind the end of the cycle
before. -/
theorem asleep_of_rhythm {hint : String} {events : List Event} {s : System} {effects : List Effect}
    (hrun : (new hint).run events = some (s, effects)) {first last : List (Nat × Beat)}
    {instant session : Nat}
    (hrhythm : (new hint).rhythm events = first ++ (instant, .began session true) :: last) :
    ∃ wakeAt, wakeAt ≤ instant ∧ Asleep first session wakeAt := by
  refine entry_induction (P := fun line s => s.Paced line)
    (Q := fun first x => ∀ n, x.2 = .began n true →
      ∃ wakeAt, wakeAt ≤ x.1 ∧ Asleep first n wakeAt)
    paced_new (fun hreach hs _ happly => hs.apply hreach happly) ?_
    (heeds_anything (new hint) events) hrun hrhythm session rfl
  rintro past s t e effects before ⟨now, x⟩ after _ hs _ happly hentries n rfl
  exact asleep_of_began hs happly hentries

end System

end AlarmMonitor.Polling
