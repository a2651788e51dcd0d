import AlarmMonitor.Proofs.Polling.Stretch

/-!
# Who holds a session

A session is held by the start that opened it, as long as that is pending, and then by the timer
that the start leaves behind, until the timer ends.  So one task at a time works for a session:
where nobody calls for single cycles, it has at most one request on its way.

* `Task.Holds`, `System.Tenure`: no two tasks hold one session;
* `System.tenure_of_reachable`: this is so in every reachable poller;
* `System.Faithful`: without calls for single cycles, the request of a cycle is one of the session
  that its task holds;
* `System.one_request_of_session`: such a poller has at most one request of a session on its way.
-/

set_option autoImplicit false

namespace AlarmMonitor.Polling

namespace Task

/-- Does the task hold the session, as the start that opened it and is still pending, or as a timer
for it that has not ended? -/
def Holds (session : Nat) (t : Task) : Prop :=
  t.role = .opening session ∨ t.role = .timer session

theorem holds_congr {session : Nat} {t next : Task} (hrole : next.role = t.role)
    (h : next.Holds session) : t.Holds session := by
  unfold Holds at h ⊢
  rw [← hrole]
  exact h

theorem not_holds_of_other {session : Nat} {t : Task} (h : t.role = .other) :
    ¬ t.Holds session := by
  rintro (hopening | htimer)
  · exact absurd (h.symm.trans hopening) nofun
  · exact absurd (h.symm.trans htimer) nofun

theorem not_holds_of_leaving {session other : Nat} {t : Task} (h : t.role = .leaving other) :
    ¬ t.Holds session := by
  rintro (hopening | htimer)
  · exact absurd (h.symm.trans hopening) nofun
  · exact absurd (h.symm.trans htimer) nofun

/-- What is left of a dropped task holds what the task held, or nothing. -/
theorem holds_of_dropped {session : Nat} {t : Task} (hsuspended : t.isSuspended = true)
    (h : t.dropped.Holds session) : t.Holds session := by
  cases htimer : t.isTimer with
  | false => exact holds_congr (Task.role_dropped hsuspended htimer) h
  | true =>
      cases t with
      | timer n phase => exact absurd h (not_holds_of_other rfl)
      | start | poll | gone => exact absurd htimer nofun

end Task

/-- Behind a deed the task holds what it held before, or the session that it has opened.  A start
that has come to the section that installs the timer holds nothing behind it. -/
theorem Deed.holds {c : Context} {s : State} {t : Task} {p : Piece} {session : Nat}
    (h : Deed c s t p) (hp : p.task.Holds session) :
    (t.Holds session ∧ t ≠ .start (.arming session)) ∨
      ((∃ options, t = .start (.entering options)) ∧ s.running = false ∧
        session = s.session + 1) := by
  cases h with
  | enter hstop =>
      rcases hp with hopening | htimer
      · exact Or.inr ⟨⟨_, rfl⟩, hstop, (Role.opening.inj hopening).symm⟩
      · exact absurd htimer nofun
  | @cycle owner _ cycle _ _ _ ht =>
      subst ht
      cases owner with
      | start n => exact Or.inl ⟨hp, nofun⟩
      | poll => exact absurd hp (Task.not_holds_of_other rfl)
      | timer n => exact Or.inl ⟨hp, nofun⟩
  | firstOver | wake | scheduledOver => exact Or.inl ⟨hp, nofun⟩
  | lieDown hphase => rcases hphase with rfl | rfl <;> exact Or.inl ⟨hp, nofun⟩
  | arm | pass => exact absurd hp (Task.not_holds_of_leaving rfl)
  | undo hphase | release hphase =>
      cases hphase <;> exact absurd hp (Task.not_holds_of_other rfl)
  | refuse | retire => exact absurd hp (Task.not_holds_of_other rfl)

namespace System

/-- No two tasks hold one session, and no session is held that has not begun. -/
structure Tenure (s : System) : Prop where
  unique : ∀ {a b session ta tb}, s.task? a = some ta → s.task? b = some tb →
    ta.Holds session → tb.Holds session → a = b
  bound : ∀ {place session t}, s.task? place = some t → t.Holds session →
    session ≤ s.state.session

theorem tenure_new (hint : String) : (new hint).Tenure where
  unique h := absurd h nofun
  bound h := absurd h nofun

/-- How a task comes to hold a session: it held it before, or opened it, or was left behind for
it. -/
inductive Takes (s : System) (e : Event) (place session : Nat) : Prop where
  | keeps {t : Task} (ht : s.task? place = some t) (hold : t.Holds session)
      (harming : e = .step place → t ≠ .start (.arming session))
  | opens {options : Options} (he : e = .step place)
      (ht : s.task? place = some (.start (.entering options))) (hstop : s.state.running = false)
      (hsession : session = s.state.session + 1)
  | inherits {id : Nat} (he : e = .step id) (hnew : place = s.slots.length)
      (ht : s.task? id = some (.start (.arming session)))

theorem takes_of_fate {s : System} {e : Event} {effects : List Effect} {place session : Nat}
    {before behind : Option Task} (h : s.Fate e effects place before behind)
    (hbefore : s.task? place = before) {t : Task} (ht : behind = some t)
    (hold : t.Holds session) : s.Takes e place session := by
  cases h with
  | kept he => exact .keeps (hbefore.trans ht) hold fun hstep => absurd hstep he
  | called hcall =>
      cases ht
      rcases hcall with ⟨_, rfl⟩ | ⟨_, _, rfl⟩ <;> exact absurd hold (Task.not_holds_of_other rfl)
  | spawned he _ hnew hstart =>
      cases ht
      rcases hold with hopening | htimer
      · exact absurd hopening nofun
      · cases htimer
        exact .inherits he hnew hstart
  | stepped he _ _ hp =>
      cases ht
      rcases (Task.deed_of_piece hp).holds hold with ⟨hheld, harming⟩ |
        ⟨⟨options, htask⟩, hstop, hsession⟩
      · exact .keeps hbefore hheld fun _ => harming
      · rw [htask] at hbefore
        exact .opens he hbefore hstop hsession
  | delivered he hnext =>
      cases ht
      exact .keeps hbefore (Task.holds_congr (Task.role_of_deliver hnext) hold)
        (by rw [he]; exact nofun)
  | dropped he hsuspended =>
      cases ht
      exact .keeps hbefore (Task.holds_of_dropped hsuspended hold) (by rw [he]; exact nofun)

/-- A start that takes effect opens the next session. -/
theorem session_of_entering {s t : System} {call : Nat} {options : Options} {told : List Effect}
    (hcall : s.task? call = some (.start (.entering options))) (hstop : s.state.running = false)
    (h : s.apply (.step call) = some (t, told)) : t.state.session = s.state.session + 1 := by
  obtain ⟨p, hdeed, rfl, rfl, _⟩ := deed_of_step hcall h
  have hleave : (s.leave call p).state = p.state := rfl
  rcases hdeed.of_entering with ⟨hrun, _⟩ | ⟨_, hstate, _⟩
  · exact absurd (hrun.symm.trans hstop) Bool.true_eq_false.mp
  · rw [session_reap, hleave, hstate]

/-- Every transition leaves every session to at most one task. -/
theorem Tenure.apply {s t : System} {e : Event} {effects : List Effect} (hs : s.Tenure)
    (h : s.apply e = some (t, effects)) : t.Tenure := by
  have htakes : ∀ {place session task}, t.task? place = some task → task.Holds session →
      s.Takes e place session := fun htask hold =>
    takes_of_fate (fate_of_apply h _) rfl htask hold
  have hfresh : ∀ {place session task}, s.task? place = some task → task.Holds session →
      session ≠ s.state.session + 1 := by
    intro place session task htask hold heq
    have hle := hs.bound htask hold
    omega
  have harming : ∀ session, (Task.start (.arming session)).Holds session := fun _ => Or.inl rfl
  refine ⟨?_, ?_⟩
  · intro a b session ta tb hta htb hholda hholdb
    cases htakes hta hholda with
    | keeps hbefore hold hleft =>
        cases htakes htb hholdb with
        | keeps hbefore' hold' => exact hs.unique hbefore hbefore' hold hold'
        | opens _ _ _ hsession => exact absurd hsession (hfresh hbefore hold)
        | inherits he _ hstart =>
            have hplace := hs.unique hstart hbefore (harming session) hold
            rw [hplace] at hstart he
            cases Option.some.inj (hbefore.symm.trans hstart)
            exact absurd rfl (hleft he)
    | opens he _ _ hsession =>
        cases htakes htb hholdb with
        | keeps hbefore hold => exact absurd hsession (hfresh hbefore hold)
        | opens he' => exact Event.step.inj (he.symm.trans he')
        | inherits _ _ hstart => exact absurd hsession (hfresh hstart (harming session))
    | inherits he hnew hstart =>
        cases htakes htb hholdb with
        | keeps hbefore hold hleft =>
            have hplace := hs.unique hstart hbefore (harming session) hold
            rw [hplace] at hstart he
            cases Option.some.inj (hbefore.symm.trans hstart)
            exact absurd rfl (hleft he)
        | opens _ _ _ hsession => exact absurd hsession (hfresh hstart (harming session))
        | inherits _ hnew' => exact hnew.trans hnew'.symm
  · intro place session task htask hold
    have hle : s.state.session ≤ t.state.session :=
      State.session_le_of_epoch_le (epoch_le_of_apply h)
    cases htakes htask hold with
    | keeps hbefore hold => exact Nat.le_trans (hs.bound hbefore hold) hle
    | opens he hcall hstop hsession =>
        rw [he] at h
        rw [session_of_entering hcall hstop h]
        exact Nat.le_of_eq hsession
    | inherits _ _ hstart => exact Nat.le_trans (hs.bound hstart (harming session)) hle

/-- In every reachable poller, no two tasks hold one session. -/
theorem tenure_of_reachable {s : System} (h : Reachable s) : s.Tenure :=
  Reachable.induction tenure_new (fun _ hs happly => hs.apply happly) h

/-! ## The requests of a session -/

/-- Does the event leave alone the stretches of other tasks, and is it no call for a single
cycle? -/
def undisturbed (s : System) (e : Event) : Bool := s.unbroken e && e != .poll

theorem undisturbed_iff {s : System} {e : Event} :
    s.undisturbed e = true ↔ s.unbroken e = true ∧ e ≠ .poll := by
  rw [undisturbed, Bool.and_eq_true, bne_iff_ne]

end System

/-- The task is no call for a single cycle, and if its request is on its way, that is one of the
session that the task holds. -/
structure Task.Faithful (t : Task) : Prop where
  called : ∀ cycle, t ≠ .poll cycle
  held : ∀ cycle session, t.cycle? = some cycle → cycle.session? = some session → t.Holds session

/-- A task without a request on its way is faithful. -/
theorem Task.faithful_of_idle {t : Task} (hcalled : ∀ cycle, t ≠ .poll cycle)
    (hidle : ∀ cycle, t.cycle? = some cycle → cycle.session? = none) : t.Faithful where
  called := hcalled
  held cycle _ hcycle hsession := absurd ((hidle cycle hcycle).symm.trans hsession) nofun

/-- A task inside of a cycle is faithful if it holds the session of the request. -/
theorem Owner.faithful_task {owner : Owner} {cycle : Cycle} (hcalled : owner ≠ .poll)
    (hheld : ∀ session, cycle.session? = some session → (owner.task cycle).Holds session) :
    (owner.task cycle).Faithful where
  called other heq := by
    cases owner with
    | poll => exact hcalled rfl
    | start | timer => exact absurd heq nofun
  held other session hcycle hsession := by
    rw [Task.cycle?_task] at hcycle
    cases hcycle
    exact hheld session hsession

/-- A start or a timer that is poised to open its cycle holds the session that runs. -/
theorem Owner.holds_of_poised {owner : Owner} {s : State} (hcalled : owner ≠ .poll)
    (h : (owner.task .ready).Poised s) (cycle : Cycle) : (owner.task cycle).Holds s.session := by
  cases owner with
  | start n => exact Or.inl (congrArg Role.opening h.2.1.symm)
  | poll => exact absurd rfl hcalled
  | timer n => exact Or.inr (congrArg Role.timer h.2.symm)

/-- A deed of a faithful task that is poised leaves it faithful. -/
theorem Deed.faithful {c : Context} {s : State} {t : Task} {p : Piece} (h : Deed c s t p)
    (ht : t.Faithful) (hpoised : t.Poised s) : p.task.Faithful := by
  cases h with
  | @cycle owner _ cycle next _ _ htask hstep =>
      subst htask
      have hcalled : owner ≠ .poll := by
        rintro rfl
        exact ht.called cycle rfl
      refine Owner.faithful_task hcalled fun session hsession => ?_
      cases hstep with
      | request =>
          -- the request is one of the session that runs, and that is the one the task holds
          cases hsession
          exact Owner.holds_of_poised hcalled hpoised _
      | notRunning | debounced | fetchFailed | discarded | taken | shown | processed =>
          exact absurd hsession nofun
  | undo hphase | release hphase => cases hphase <;> exact Task.faithful_of_idle nofun nofun
  | enter | wake =>
      refine Task.faithful_of_idle nofun fun cycle hcycle => ?_
      cases hcycle
      rfl
  | refuse | firstOver | arm | pass | lieDown | retire | scheduledOver =>
      exact Task.faithful_of_idle nofun nofun

theorem Task.Faithful.deliver {t next : Task} {reply : Backend.Reply} (ht : t.Faithful)
    (h : t.deliver reply = some next) : next.Faithful := by
  have hrole := Task.role_of_deliver h
  obtain ⟨owner, n, endpoint, rfl, rfl⟩ := Task.answered_of_deliver h
  have hcalled : owner ≠ .poll := by
    rintro rfl
    exact ht.called _ rfl
  refine Owner.faithful_task hcalled fun session hsession => ?_
  exact Task.holds_congr hrole.symm (ht.held _ session (Task.cycle?_task _ _) hsession)

theorem Task.faithful_dropped (t : Task) : t.dropped.Faithful := by
  rcases t.dropped_cases with hgone | ⟨_, hguard⟩
  · rw [hgone]
    exact Task.faithful_of_idle nofun nofun
  · rw [hguard]
    exact Task.faithful_of_idle nofun nofun

namespace System

/-- No call for a single cycle is there, and every request on its way is one of the session that its
task holds. -/
def Faithful (s : System) : Prop := ∀ place t, s.task? place = some t → t.Faithful

theorem faithful_new (hint : String) : (new hint).Faithful := fun _ _ h => absurd h nofun

/-- Every transition of an undisturbed run leaves all tasks faithful. -/
theorem Faithful.apply {s t : System} {e : Event} {effects : List Effect} (hs : s.Faithful)
    (hpoised : s.Poised) (he : e ≠ .poll) (h : s.apply e = some (t, effects)) : t.Faithful := by
  intro place task htask
  have hfate := fate_of_apply h place
  rw [htask] at hfate
  generalize hbefore : s.task? place = before at hfate
  cases hfate with
  | kept => exact hs place task hbefore
  | called hcall =>
      rcases hcall with ⟨hpoll, _⟩ | ⟨_, _, rfl⟩
      · exact absurd hpoll he
      · exact Task.faithful_of_idle nofun nofun
  | spawned => exact Task.faithful_of_idle nofun nofun
  | stepped _ _ _ hp =>
      exact (Task.deed_of_piece hp).faithful (hs place _ hbefore) (hpoised place _ hbefore)
  | delivered _ hnext => exact (hs place _ hbefore).deliver hnext
  | dropped => exact Task.faithful_dropped _

/-- In an undisturbed run, all tasks stay poised and faithful. -/
theorem faithful_of_run {hint : String} {events : List Event} {s : System} {effects : List Effect}
    (hheeds : (new hint).heeds undisturbed events = true)
    (hrun : (new hint).run events = some (s, effects)) : s.Poised ∧ s.Faithful := by
  refine heeding_induction (P := fun s => s.Poised ∧ s.Faithful)
    (fun hint => ⟨poised_new hint, faithful_new hint⟩) ?_ hheeds hrun
  intro s t e effects hreach hs hrule happly
  obtain ⟨hunbroken, hcall⟩ := undisturbed_iff.mp hrule
  exact ⟨hs.1.apply hreach hunbroken happly, hs.2.apply hs.1 hcall happly⟩

/-- At no moment of an undisturbed run are two requests of one session on their way. -/
theorem one_request_of_session {s : System} (hreach : Reachable s) (hs : s.Faithful)
    {a b session : Nat} {ca cb : Cycle} (ha : s.cycle? a = some ca) (hb : s.cycle? b = some cb)
    (hsa : ca.session? = some session) (hsb : cb.session? = some session) : a = b := by
  obtain ⟨ta, hta, hca⟩ := Option.bind_eq_some_iff.mp ha
  obtain ⟨tb, htb, hcb⟩ := Option.bind_eq_some_iff.mp hb
  exact (tenure_of_reachable hreach).unique hta htb ((hs a ta hta).held ca session hca hsa)
    ((hs b tb htb).held cb session hcb hsb)

end System

end AlarmMonitor.Polling
