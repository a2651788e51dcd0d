import AlarmMonitor.Proofs.Polling.Novelty
import AlarmMonitor.Proofs.Polling.Progress
import AlarmMonitor.Proofs.Polling.Record

/-!
# The delivery of a reply

A cycle that takes a reply in shows the texts of its new records one after the other, whatever
happens to the poller between two of them.

* `Cycle.Shows`: how far a cycle has come with its texts, counted in steps of its task;
* `System.shows_of_run`: this many steps bring it so far;
* `System.asked_of_run`, `System.taken_of_run`: the moments where a cycle began its request and where
  it took the reply in;
* `System.processed_exactly`: what a cycle that has come to its end has shown, and what it has left
  in the history.
-/

set_option autoImplicit false

namespace AlarmMonitor.Polling

open AlarmMonitor.Alarm (Record)
open History (newRecords cutToMark)

/-- The text that an effect hands to the sink. -/
def Effect.shown? : Effect → Option String
  | .show text => some text
  | _ => none

/-- Pruning is not seen by the sink. -/
theorem Cycle.shown_pruneNotes (evicted remaining : Nat) :
    (pruneNotes evicted remaining).filterMap Effect.shown? = [] := by
  unfold pruneNotes
  split <;> rfl

/-! ## A cycle and its texts -/

/-- A cycle with so many records and these texts to show, after so many of its steps. -/
inductive Cycle.Shows (fetched surfaced : Nat) (texts : List String) : Nat → Cycle → Prop where
  | showing {k : Nat} (hk : k ≤ texts.length) :
      Shows fetched surfaced texts k (.showing fetched surfaced (texts.drop k))
  | ended : Shows fetched surfaced texts (texts.length + 1) (.ended (.processed fetched surfaced))

namespace Cycle.Shows

variable {fetched surfaced k : Nat} {texts : List String} {cycle : Cycle}

theorem first (fetched surfaced : Nat) (texts : List String) :
    Shows fetched surfaced texts 0 (.showing fetched surfaced texts) := .showing (Nat.zero_le _)

theorem le (h : Shows fetched surfaced texts k cycle) : k ≤ texts.length + 1 := by
  cases h with
  | showing hk => exact Nat.le_succ_of_le hk
  | ended => exact Nat.le_refl _

theorem isWaiting_eq_false (h : Shows fetched surfaced texts k cycle) : cycle.isWaiting = false := by
  cases h <;> rfl

theorem ne_ready (h : Shows fetched surfaced texts k cycle) : cycle ≠ .ready := by
  cases h <;> nofun

/-- Up to the last text the cycle shows. -/
theorem eq_showing (h : Shows fetched surfaced texts k cycle) (hk : k ≤ texts.length) :
    cycle = .showing fetched surfaced (texts.drop k) := by
  cases h with
  | showing => rfl
  | ended => omega

/-- Behind the last text it has ended. -/
theorem eq_ended (h : Shows fetched surfaced texts k cycle) (hk : texts.length < k) :
    cycle = .ended (.processed fetched surfaced) := by
  cases h with
  | showing => omega
  | ended => rfl

/-- Each step shows the next text, and the one behind the last text ends the cycle. -/
theorem step (h : Shows fetched surfaced texts k cycle) {hint : String} {now place : Nat}
    {s state : State} {next : Cycle} {told : List Effect}
    (hstep : Step hint now place s cycle (state, next, told)) :
    Shows fetched surfaced texts (k + 1) next ∧
      texts.take k ++ told.filterMap Effect.shown? = texts.take (k + 1) := by
  cases h with
  | ended => exact absurd hstep nofun
  | showing hk =>
      rcases Nat.lt_or_eq_of_le hk with hlt | rfl
      · rw [List.drop_eq_getElem_cons hlt] at hstep
        cases hstep with
        | shown => exact ⟨.showing hlt, List.take_append_getElem hlt⟩
      · rw [List.drop_length] at hstep
        cases hstep with
        | processed =>
            refine ⟨.ended, ?_⟩
            rw [List.take_length, List.take_of_length_le (Nat.le_succ _)]
            exact List.append_nil texts

/-- As long as the cycle has not ended it has a next step. -/
theorem exists_step (h : Shows fetched surfaced texts k cycle) (hk : k ≤ texts.length)
    (hint : String) (now place : Nat) (s : State) :
    ∃ r, Step hint now place s cycle r := by
  rw [h.eq_showing hk]
  cases texts.drop k with
  | nil => exact ⟨_, .processed⟩
  | cons text rest => exact ⟨_, .shown⟩

end Cycle.Shows

namespace System

/-! ## Steps with texts -/

/-- The texts that the task at a place shows in a run, in order. -/
def shownBy (s : System) (id : Nat) (events : List Event) : List String :=
  s.record (fun _ e _ told => if e = .step id then told.filterMap Effect.shown? else []) events

section

variable {s t u : System} {id : Nat} {e : Event} {rest : List Event} {told : List Effect}

theorem shownBy_step (h : s.apply (.step id) = some (u, told)) (rest : List Event) :
    s.shownBy id (.step id :: rest) = told.filterMap Effect.shown? ++ u.shownBy id rest := by
  unfold shownBy
  rw [record_cons h, if_pos rfl]

theorem shownBy_other (h : s.apply e = some (u, told)) (he : e ≠ .step id) (rest : List Event) :
    s.shownBy id (e :: rest) = u.shownBy id rest := by
  unfold shownBy
  rw [record_cons h, if_neg he, List.nil_append]

theorem shownBy_append {before : List Event} {effects : List Effect}
    (h : s.run before = some (t, effects)) (after : List Event) :
    s.shownBy id (before ++ after) = s.shownBy id before ++ t.shownBy id after :=
  record_append h after

/-- A task that takes no step shows nothing. -/
theorem shownBy_of_not_mem {events : List Event} (h : .step id ∉ events) :
    s.shownBy id events = [] := by
  induction events generalizing s with
  | nil => rfl
  | cons e rest ih =>
      rw [List.mem_cons, not_or] at h
      cases happly : s.apply e with
      | none => simp only [shownBy, record, happly]
      | some r => rw [shownBy_other happly fun he => h.1 he.symm, ih h.2]

end

variable {fetched surfaced : Nat} {texts : List String}

/-- As long as its task takes no more steps than that, the steps bring a cycle so far with its
texts. -/
theorem shows_of_run {s t : System} {id k : Nat} {cycle : Cycle} {events : List Event}
    {effects : List Effect} (hcycle : s.cycle? id = some cycle)
    (hshows : cycle.Shows fetched surfaced texts k)
    (hbound : k + events.count (.step id) ≤ texts.length + 1)
    (hrun : s.run events = some (t, effects)) :
    ∃ last, t.cycle? id = some last ∧
      last.Shows fetched surfaced texts (k + events.count (.step id)) ∧
      texts.take k ++ s.shownBy id events = texts.take (k + events.count (.step id)) := by
  induction events generalizing s k cycle effects with
  | nil =>
      cases hrun
      exact ⟨cycle, hcycle, hshows, List.append_nil _⟩
  | cons e rest ih =>
      obtain ⟨u, told, later, happly, hrest, _⟩ := run_cons_eq_some_iff.mp hrun
      by_cases he : e = .step id
      · subst he
        rw [List.count_cons_self] at hbound ⊢
        have hgoes : cycle = .showing fetched surfaced (texts.drop k) :=
          hshows.eq_showing (by omega)
        obtain ⟨state, next, hstep, hnext, _⟩ :=
          step_of_cycle hcycle (fun outcome heq => absurd (hgoes.symm.trans heq) nofun) happly
        obtain ⟨hshows', htaken⟩ := hshows.step hstep
        have hcount : k + 1 + rest.count (.step id) = k + (rest.count (.step id) + 1) := by omega
        obtain ⟨last, hlast, hat, hshown⟩ := ih hnext hshows' (hcount ▸ hbound) hrest
        rw [hcount] at hat hshown
        refine ⟨last, hlast, hat, ?_⟩
        rw [shownBy_step happly, ← List.append_assoc, htaken, hshown]
      · rw [List.count_cons_of_ne he] at hbound ⊢
        have hkept : u.cycle? id = some cycle :=
          cycle?_of_apply_ne hcycle hshows.isWaiting_eq_false hshows.ne_ready he happly
        rw [shownBy_other happly he]
        exact ih hkept hshows hbound hrest

/-! ## From the beginning of a cycle to its end -/

/-- A task whose cycle stays in its request takes no step. -/
theorem Stays.not_mem_step {s t : System} {id : Nat} {events : List Event} {effects : List Effect}
    (h : s.Stays (fun cycle => cycle.isWaiting = true) id events)
    (hrun : s.run events = some (t, effects)) : .step id ∉ events := by
  induction events generalizing s effects with
  | nil => exact List.not_mem_nil
  | cons e rest ih =>
      obtain ⟨u, told, later, happly, hrest, _⟩ := run_cons_eq_some_iff.mp hrun
      have htail := h.tail happly
      rw [List.mem_cons, not_or]
      refine ⟨?_, ih htail hrest⟩
      rintro rfl
      obtain ⟨cycle, hcycle, hwaits⟩ := h.here
      obtain ⟨next, hnext, hstill⟩ := htail.here
      cases cycleOrigin_of_apply happly hnext with
      | ready => exact absurd hstill nofun
      | kept he => exact he rfl
      | answered he => exact absurd he nofun
      | stepped _ hbefore hstep =>
          cases hbefore.symm.trans hcycle
          cases hstep with
          | request => exact absurd hwaits nofun
          | notRunning | debounced | fetchFailed | discarded | taken | shown | processed =>
              exact absurd hstill nofun

/-- A cycle that has texts to show goes on until it has shown them, whatever happens to the
poller. -/
theorem showing_of_run {s t : System} {id : Nat} {events : List Event} {effects : List Effect}
    (hcycle : s.cycle? id = some (.showing fetched surfaced texts))
    (hrun : s.run events = some (t, effects)) (hbound : events.count (.step id) ≤ texts.length) :
    t.cycle? id = some (.showing fetched surfaced (texts.drop (events.count (.step id)))) ∧
      s.shownBy id events = texts.take (events.count (.step id)) ∧
      ∃ u told, t.apply (.step id) = some (u, told) := by
  obtain ⟨last, hlast, hshows, hshown⟩ :=
    shows_of_run hcycle (.first _ _ _) (by omega) hrun
  rw [Nat.zero_add] at hshows hshown
  obtain ⟨⟨_, _, told⟩, hstep⟩ := hshows.exists_step hbound t.hint t.now id t.state
  obtain ⟨u, happly⟩ :=
    exists_step_of_cycle hlast hshows.isWaiting_eq_false hshows.ne_ready hstep
  exact ⟨hshows.eq_showing hbound ▸ hlast, hshown, u, told, happly⟩

/-- With the step behind the last text the cycle has ended, and has shown all of them. -/
theorem ended_of_run {s t : System} {id : Nat} {events : List Event} {effects : List Effect}
    (hcycle : s.cycle? id = some (.showing fetched surfaced texts))
    (hrun : s.run events = some (t, effects))
    (hcount : events.count (.step id) = texts.length + 1) :
    t.cycle? id = some (.ended (.processed fetched surfaced)) ∧ s.shownBy id events = texts := by
  obtain ⟨last, hlast, hshows, hshown⟩ :=
    shows_of_run hcycle (.first _ _ _) (by omega) hrun
  rw [hcount, List.take_zero, List.nil_append, List.take_of_length_le (by omega)] at hshown
  exact ⟨hshows.eq_ended (by omega) ▸ hlast, hshown⟩

end System

/-- Has the cycle begun its request and taken nothing in? -/
def Cycle.isFruitless : Cycle → Bool
  | .waiting .. | .answered .. | .ended .fetchFailed | .ended .discarded => true
  | _ => false

theorem Cycle.isFruitless_of_isWaiting (cycle : Cycle) (h : cycle.isWaiting = true) :
    cycle.isFruitless = true := by
  cases cycle with
  | waiting | answered => rfl
  | ready | showing | ended => exact absurd h nofun

/-- Has the cycle taken a reply in? -/
def Cycle.hasTaken : Cycle → Bool
  | .showing .. | .ended (.processed ..) => true
  | _ => false

namespace System

/-- The moment where a cycle that has taken nothing in began its request, and since when it has had
a property that every cycle in its request has. -/
theorem asked_of_run {P : Cycle → Prop} (hfruitless : ∀ cycle, P cycle → cycle.isFruitless = true)
    (hwaits : ∀ cycle, cycle.isWaiting = true → P cycle) {hint : String} {events : List Event}
    {t : System} {effects : List Effect} {id : Nat} {cycle : Cycle}
    (hrun : (new hint).run events = some (t, effects)) (hcycle : t.cycle? id = some cycle)
    (hP : P cycle) :
    ∃ before after s early u later, events = before ++ .step id :: after ∧
      (new hint).run before = some (s, early) ∧ s.cycle? id = some .ready ∧
      s.apply (.step id) = some (u, [.request id s.state.config.endpoint]) ∧
      u.state = { s.state with lastCycle := some s.now } ∧ u.run after = some (t, later) ∧
      u.Stays P id after := by
  obtain ⟨before, e, after, s, early, u, told, later, rfl, hbefore, hentry, hafter, hout, hstays⟩ :=
    entered_of_run hrun hcycle hP
  obtain ⟨next, hnext, hin⟩ := hstays.here
  have hnothing : next.isFruitless = true := hfruitless next hin
  cases cycleOrigin_of_apply hentry hnext with
  | ready => exact absurd hnothing nofun
  | kept _ hold => exact absurd hin (hout _ hold)
  | answered _ hold => exact absurd (hwaits _ rfl) (hout _ hold)
  | stepped he hold hstep hstate =>
      subst he
      cases hstep with
      | request =>
          have halive : u.isAlive = true := isAlive_of_cycle? hnext nofun
          exact ⟨before, after, s, early, u, later, rfl, hbefore, hold, hentry,
            hstate.eq_of_alive halive, hafter, hstays⟩
      | fetchFailed | discarded => exact absurd (hwaits _ rfl) (hout _ hold)
      | notRunning | debounced | taken | shown | processed => exact absurd hnothing nofun

/-- The moment where a cycle that has taken a reply in did so. -/
theorem taken_of_run {hint : String} {events : List Event} {t : System} {effects : List Effect}
    {id : Nat} {cycle : Cycle} (hrun : (new hint).run events = some (t, effects))
    (hcycle : t.cycle? id = some cycle) (htaken : cycle.hasTaken = true) :
    ∃ before between s early s₁ told later session endpoint body,
      events = before ++ .step id :: between ∧ (new hint).run before = some (s, early) ∧
      s.cycle? id = some (.answered session endpoint (.body body)) ∧
      s.state.running = true ∧ s.state.session = session ∧
      s.apply (.step id) = some (s₁, told) ∧ s₁.run between = some (t, later) ∧
      s₁.Stays (fun cycle => cycle.hasTaken = true) id between := by
  obtain ⟨before, e, between, s, early, s₁, told, later, rfl, hbefore, hentry, hafter, hout,
    hstays⟩ := entered_of_run (P := fun cycle => cycle.hasTaken = true) hrun hcycle htaken
  obtain ⟨next, hnext, hin⟩ := hstays.here
  cases cycleOrigin_of_apply hentry hnext with
  | ready | answered => exact absurd hin nofun
  | kept _ hold => exact absurd hin (hout _ hold)
  | stepped he hold hstep =>
      subst he
      cases hstep with
      | taken hruns hsession =>
          exact ⟨before, between, s, early, s₁, _, later, _, _, _, rfl, hbefore, hold, hruns,
            hsession, hentry, hafter, hstays⟩
      | shown | processed => exact absurd rfl (hout _ hold)
      | notRunning | debounced | request | fetchFailed | discarded => exact absurd hin nofun

/-- A reply to a request of the period that runs is taken in: its new records are to be shown, and
their keys are behind the old ones in the history. -/
theorem taken_of_step {s t : System} {id session : Nat} {endpoint body : String}
    {told : List Effect} (hreach : Reachable s)
    (hcycle : s.cycle? id = some (.answered session endpoint (.body body)))
    (hruns : s.state.running = true) (hsession : s.state.session = session)
    (h : s.apply (.step id) = some (t, told)) :
    t.cycle? id = some (.showing (Alarm.ofBody body).length
        (newRecords s.state.seen.toList (Alarm.ofBody body)).length
        ((newRecords s.state.seen.toList (Alarm.ofBody body)).map (·.render s.hint))) ∧
      t.state =
        { s.state with seen := (s.state.seen.insertRecords (Alarm.ofBody body)).1.prune.1 } ∧
      t.state.seen.toList = cutToMark (s.state.seen.toList ++
        (newRecords s.state.seen.toList (Alarm.ofBody body)).map (·.key)) ∧
      told.filterMap Effect.shown? = [] := by
  have hsound := sound_of_reachable hreach
  obtain ⟨state, next, hstep, hnext, hstate⟩ := step_of_cycle hcycle nofun h
  cases hstep with
  | discarded hover =>
      rcases hover with hstop | hother
      · exact absurd (hruns.symm.trans hstop) nofun
      · exact absurd hsession hother
  | taken =>
      have hfresh := History.insertRecords_snd_eq hsound.seen_sound (Alarm.ofBody body)
      have halive : t.isAlive = true := isAlive_of_cycle? hnext nofun
      have hbehind := hstate.eq_of_alive halive
      rw [Section.apply_closeCycle_of_current hruns hsession] at hbehind
      refine ⟨?_, hbehind, ?_, Cycle.shown_pruneNotes _ _⟩
      · rw [hnext, List.length_map, hfresh]
      · rw [hbehind]
        exact History.toList_prune_insertRecords hsound.seen_sound hsound.seen_bounds _

/-- A cycle that goes on behind a reply takes no more steps than there are texts, and one. -/
theorem Stays.count_step_le {fetched surfaced : Nat} {texts : List String} {s t : System}
    {id k : Nat} {cycle : Cycle} {events : List Event} {effects : List Effect}
    (h : s.Stays (fun cycle => cycle.hasTaken = true) id events)
    (hcycle : s.cycle? id = some cycle) (hshows : cycle.Shows fetched surfaced texts k)
    (hrun : s.run events = some (t, effects)) :
    k + events.count (.step id) ≤ texts.length + 1 := by
  induction events generalizing s k cycle effects with
  | nil => exact hshows.le
  | cons e rest ih =>
      obtain ⟨u, told, later, happly, hrest, _⟩ := run_cons_eq_some_iff.mp hrun
      have htail := h.tail happly
      by_cases he : e = .step id
      · subst he
        obtain ⟨next, hnext, hin⟩ := htail.here
        cases cycleOrigin_of_apply happly hnext with
        | ready | answered => exact absurd hin nofun
        | kept he => exact absurd rfl he
        | stepped _ hold hstep =>
            cases hold.symm.trans hcycle
            have hle := ih htail hnext (hshows.step hstep).1 hrest
            rw [List.count_cons_self]
            omega
      · rw [List.count_cons_of_ne he]
        have hkept : u.cycle? id = some cycle :=
          cycle?_of_apply_ne hcycle hshows.isWaiting_eq_false hshows.ne_ready he happly
        exact ih htail hkept hshows hrest

/-! ## What a processed cycle leaves behind -/

/-- What a cycle that has ended with a processed reply has behind it, told from its beginning on. -/
theorem delivered_of_processed {hint : String} {events : List Event} {t : System}
    {effects : List Effect} {id fetched surfaced : Nat}
    (hrun : (new hint).run events = some (t, effects))
    (hended : t.cycle? id = some (.ended (.processed fetched surfaced))) :
    ∃ before wait between r s u early seen told session endpoint body,
      events = before ++ .step id :: (wait ++ .step id :: between) ∧
      (new hint).run before = some (r, early) ∧ r.cycle? id = some .ready ∧
      r.run (.step id :: wait) = some (s, seen) ∧
      s.cycle? id = some (.answered session endpoint (.body body)) ∧
      s.state.running = true ∧ s.state.session = session ∧
      s.apply (.step id) = some (u, told) ∧
      r.shownBy id (.step id :: (wait ++ .step id :: between)) =
        (newRecords s.state.seen.toList (Alarm.ofBody body)).map (·.render hint) ∧
      fetched = (Alarm.ofBody body).length ∧
      surfaced = (newRecords s.state.seen.toList (Alarm.ofBody body)).length ∧
      u.state = { s.state with seen := u.state.seen } ∧
      u.state.seen.toList = cutToMark (s.state.seen.toList ++
        (newRecords s.state.seen.toList (Alarm.ofBody body)).map (·.key)) := by
  obtain ⟨front, between, s, first, u, told, later, session, endpoint, body, rfl, hfirst,
    hanswered, hruns, hsession, htaking, hbetween, hstays⟩ := taken_of_run hrun hended rfl
  obtain ⟨before, wait, r, early, r₁, seen, rfl, hbefore, hready, hasking, _, hwaiting, hwaits⟩ :=
    asked_of_run (P := fun cycle => cycle.isWaiting = true) Cycle.isFruitless_of_isWaiting
      (fun _ hwaits => hwaits) hfirst hanswered rfl
  have hreach : Reachable s := ⟨hint, _, first, hfirst⟩
  obtain ⟨hshowing, hstate, hhistory, hsilent⟩ :=
    taken_of_step hreach hanswered hruns hsession htaking
  rw [hint_of_run hfirst] at hshowing
  have hbound := hstays.count_step_le hshowing (.first _ _ _) hbetween
  -- with fewer steps the cycle would still have texts to show
  have hcount := Nat.le_antisymm (Nat.zero_add (between.count (.step id)) ▸ hbound)
    (Nat.lt_of_not_le fun hle =>
      absurd ((showing_of_run hshowing hbetween hle).1.symm.trans hended) nofun)
  obtain ⟨hlast, hshown⟩ := ended_of_run hshowing hbetween hcount
  cases hlast.symm.trans hended
  have hrequest : r.run (.step id :: wait) =
      some (s, [.request id r.state.config.endpoint] ++ seen) :=
    run_cons_eq_some_iff.mpr ⟨r₁, _, seen, hasking, hwaiting, rfl⟩
  refine ⟨before, wait, between, r, s, u, early, _, told, session, endpoint, body, ?_, hbefore,
    hready, hrequest, hanswered, hruns, hsession, htaking, ?_, rfl, rfl, by rw [hstate], hhistory⟩
  · rw [List.append_assoc, List.cons_append]
  · rw [← List.cons_append, shownBy_append hrequest, shownBy_step htaking, hsilent, hshown,
      shownBy_step hasking, shownBy_of_not_mem (hwaits.not_mem_step hwaiting)]
    rfl

/-- No poller remembers a key twice or more keys than the mark allows.  And over every run: a cycle
that has ended with a processed reply began its request there and took in its reply later on, in the
running period of its request; the new records are those whose key neither the history held then
nor an earlier record of the reply has; from its beginning on the task has shown the texts of these
records, in order and each once, whatever anybody did to the poller meanwhile; the outcome counts
the records of the reply and the new ones; and where the reply was taken in, the history was
extended by the keys of the new records and cut to the mark, and nothing else changed.  The other way
round: whatever the poller remembers and the reply says, a cycle that takes it in can go on until it
has shown the texts of the new records, and then ends with their number. -/
theorem processed_exactly :
    (∀ s : System, Reachable s →
      s.state.seen.toList.Nodup ∧ s.state.seen.size ≤ highWaterMark) ∧
    (∀ hint events t effects id fetched surfaced,
      (new hint).run events = some (t, effects) →
      t.cycle? id = some (.ended (.processed fetched surfaced)) →
      ∃ before wait between r s u early seen told session endpoint body,
        events = before ++ .step id :: (wait ++ .step id :: between) ∧
        (new hint).run before = some (r, early) ∧ r.cycle? id = some .ready ∧
        r.run (.step id :: wait) = some (s, seen) ∧
        s.cycle? id = some (.answered session endpoint (.body body)) ∧
        s.state.running = true ∧ s.state.session = session ∧
        s.apply (.step id) = some (u, told) ∧
        r.shownBy id (.step id :: (wait ++ .step id :: between)) =
          (newRecords s.state.seen.toList (Alarm.ofBody body)).map (·.render hint) ∧
        fetched = (Alarm.ofBody body).length ∧
        surfaced = (newRecords s.state.seen.toList (Alarm.ofBody body)).length ∧
        u.state = { s.state with seen := u.state.seen } ∧
        u.state.seen.toList = cutToMark (s.state.seen.toList ++
          (newRecords s.state.seen.toList (Alarm.ofBody body)).map (·.key))) ∧
    ∀ (s u t : System) id session endpoint body told later effects, Reachable s →
      s.cycle? id = some (.answered session endpoint (.body body)) → s.state.running = true →
      s.state.session = session → s.apply (.step id) = some (u, told) →
      u.run later = some (t, effects) →
      (later.count (.step id) ≤ (newRecords s.state.seen.toList (Alarm.ofBody body)).length →
        ∃ v shown, t.apply (.step id) = some (v, shown)) ∧
      (later.count (.step id) = (newRecords s.state.seen.toList (Alarm.ofBody body)).length + 1 →
        t.cycle? id = some (.ended (.processed (Alarm.ofBody body).length
          (newRecords s.state.seen.toList (Alarm.ofBody body)).length)) ∧
        u.shownBy id later =
          (newRecords s.state.seen.toList (Alarm.ofBody body)).map (·.render s.hint)) := by
  refine ⟨fun s hreach => ⟨nodup_of_reachable hreach, size_of_reachable hreach⟩,
    fun hint events t effects id fetched surfaced hrun hended => ?_,
    fun s u t id session endpoint body told later effects hreach hanswered hruns hsession htaking
      hlater => ?_⟩
  · exact delivered_of_processed hrun hended
  · obtain ⟨hshowing, _⟩ := taken_of_step hreach hanswered hruns hsession htaking
    refine ⟨fun hbound => ?_, fun hcount => ?_⟩
    · obtain ⟨_, _, hstep⟩ := showing_of_run hshowing hlater (by rw [List.length_map]; exact hbound)
      exact hstep
    · exact ended_of_run hshowing hlater (by rw [List.length_map]; exact hcount)

/-- A reply with three records, the second of which repeats the first.  The sink stops the poller
while it is given the first text. -/
def stoppedBySink : List Event :=
  [.start .none, .step 0, .step 0, .deliver 0 (.body "[1, 1, 2]"), .step 0, .step 0, .stop, .step 0,
    .step 0]

theorem processed_exactly_of_stoppedBySink :
    ∃ t effects, (new "").run stoppedBySink = some (t, effects) ∧ t.state.running = false ∧
      t.cycle? 0 = some (.ended (.processed 3 2)) ∧
      ∃ (wait between : List Event) (r s : System) (body : String),
        r.shownBy 0 (.step 0 :: (wait ++ .step 0 :: between)) =
          (newRecords s.state.seen.toList (Alarm.ofBody body)).map (·.render "") ∧
        3 = (Alarm.ofBody body).length ∧
        2 = (newRecords s.state.seen.toList (Alarm.ofBody body)).length := by
  have hend : ((new "").run stoppedBySink).map (fun r => (r.1.state.running, r.1.cycle? 0)) =
      some (false, some (.ended (.processed 3 2))) := by decide +kernel
  obtain ⟨⟨t, effects⟩, hrun, hpair⟩ := Option.map_eq_some_iff.mp hend
  obtain ⟨hstopped, hended⟩ := Prod.mk.inj hpair
  obtain ⟨_, wait, between, r, s, _, _, _, _, _, _, body, _, _, _, _, _, _, _, _, hshown, hfetched,
    hsurfaced, _⟩ := processed_exactly.2.1 "" stoppedBySink t effects 0 3 2 hrun hended
  exact ⟨t, effects, hrun, hstopped, hended, wait, between, r, s, body, hshown, hfetched,
    hsurfaced⟩

example : (new "").shownBy 0 stoppedBySink = ["1", "2"] := by decide +kernel

end System

end AlarmMonitor.Polling
