import AlarmMonitor.Proofs.Polling.Deed
import AlarmMonitor.Proofs.Polling.Record

/-!
# The spacing of requests

Starts, timers and calls for one cycle begin requests of the same running period, in any order.
What keeps them apart is the clock of the poller, which shows the last request of the period.

* `Deed.pulse`, `System.pulse_of_apply`: a transition begins a request late enough and sets the
  clock, or ends the running period and clears it, or leaves the clock alone;
* `System.Clock`: the clock shows the last request of the running period;
* `System.requests_spaced_by_window`: requests of one period begin at least the window apart, and a
  cycle is skipped only within the window behind a request.
-/

set_option autoImplicit false

namespace AlarmMonitor.Polling

/-! ## The requests of a running period -/

/-- A request began at this instant of the timeline, and the running period has not ended since. -/
def Asked (line : List (Nat × Effect)) (instant : Nat) : Prop :=
  ∃ first place endpoint rest, line = first ++ (instant, .request place endpoint) :: rest ∧
    ∀ x ∈ rest, x.2.kind ≠ .halt

namespace Asked

variable {line more : List (Nat × Effect)} {instant : Nat}

theorem append (h : Asked line instant) (hmore : ∀ x ∈ more, x.2.kind ≠ .halt) :
    Asked (line ++ more) instant := by
  obtain ⟨first, place, endpoint, rest, rfl, hrest⟩ := h
  refine ⟨first, place, endpoint, rest ++ more, ?_, ?_⟩
  · rw [List.append_assoc, List.cons_append]
  · intro x hx
    rcases List.mem_append.mp hx with hold | hnew
    · exact hrest x hold
    · exact hmore x hnew

theorem append_request (line : List (Nat × Effect)) (instant place : Nat) (endpoint : String) :
    Asked (line ++ [(instant, .request place endpoint)]) instant :=
  ⟨line, place, endpoint, [], rfl, nofun⟩

/-- A request in a longer timeline is one of what was added, or was there before and the running
period has gone on. -/
theorem of_append (h : Asked (line ++ more) instant) :
    (∃ x ∈ more, x.1 = instant ∧ x.2.kind = .request) ∨
      (Asked line instant ∧ ∀ x ∈ more, x.2.kind ≠ .halt) := by
  obtain ⟨first, place, endpoint, rest, hsplit, hrest⟩ := h
  rcases List.append_eq_append_iff.mp hsplit with ⟨middle, rfl, hmore⟩ | ⟨middle, hline, htail⟩
  · refine Or.inl ⟨(instant, .request place endpoint), ?_, rfl, rfl⟩
    rw [hmore]
    exact List.mem_append_right _ List.mem_cons_self
  · cases middle with
    | nil =>
        have hmore : more = (instant, .request place endpoint) :: rest := htail.symm
        refine Or.inl ⟨(instant, .request place endpoint), ?_, rfl, rfl⟩
        rw [hmore]
        exact List.mem_cons_self
    | cons y middle =>
        rw [List.cons_append, List.cons.injEq] at htail
        obtain ⟨rfl, rfl⟩ := htail
        refine Or.inr ⟨⟨first, place, endpoint, middle, hline, ?_⟩, ?_⟩
        · exact fun x hx => hrest x (List.mem_append_left _ hx)
        · exact fun x hx => hrest x (List.mem_append_right _ hx)

end Asked

/-! ## What happens to the clock -/

/-- What happens to the clock of requests where this is seen outside. -/
inductive Pulse (now : Nat) (s u : State) (effects : List Effect) : Prop where
  /-- A request begins, late enough behind the last one, and the clock shows it. -/
  | ask {place : Nat} {endpoint : String} (hrun : s.running = true)
      (hlate : ∀ last, s.lastCycle = some last →
        ¬ Duration.between last now < debounceWindow)
      (hclock : u.lastCycle = some now) (heffects : effects = [.request place endpoint])
  /-- The running period ends, and the clock shows nothing. -/
  | rest (hclock : u.lastCycle = none) (hhalts : ∃ x ∈ effects, x.kind = .halt)
      (hsilent : ∀ x ∈ effects, x.kind ≠ .request)
  /-- Neither of them, and the clock stays as it is. -/
  | still (hclock : u.lastCycle = s.lastCycle)
      (hsilent : ∀ x ∈ effects, x.kind ≠ .request ∧ x.kind ≠ .halt)

namespace Pulse

variable {now : Nat} {s u : State} {effects : List Effect}

/-- Nothing is seen but what means nothing for the running periods. -/
theorem still_of_other (hclock : u.lastCycle = s.lastCycle)
    (hother : ∀ x ∈ effects, x.kind = .other) : Pulse now s u effects := by
  refine .still hclock fun x hx => ?_
  rw [hother x hx]
  exact ⟨nofun, nofun⟩

/-- Nothing is seen. -/
theorem still_of_nil (hclock : u.lastCycle = s.lastCycle) : Pulse now s u [] :=
  .still_of_other hclock nofun

end Pulse

/-- A deed begins a request, ends the running period, or leaves the clock alone. -/
theorem Deed.pulse {c : Context} {s : State} {t : Task} {p : Piece} (h : Deed c s t p) :
    Pulse c.now s p.state p.effects := by
  cases h with
  | refuse | pass | release | lieDown | retire | wake => exact .still_of_nil rfl
  | @enter o =>
      refine .still rfl fun x hx => ?_
      simp only [System.notes, List.map_append, List.map_cons, List.map_nil] at hx
      rcases List.mem_append.mp hx with hmerge | hstarted
      · rw [State.kind_of_mem_mergeNotes hmerge]
        exact ⟨nofun, nofun⟩
      · rw [List.mem_singleton.mp hstarted]
        exact ⟨nofun, nofun⟩
  | cycle _ hstep =>
      rcases hstep.asks_or_silent with ⟨_, _, hrun, hlate, hstate, heffects⟩ | ⟨hother, hstate⟩
      · exact .ask hrun hlate (by rw [hstate]) heffects
      · exact .still_of_other (by rw [hstate]) hother
  | firstOver | scheduledOver | arm =>
      refine .still rfl fun x hx => ?_
      rw [List.mem_singleton.mp hx]
      exact ⟨nofun, nofun⟩
  | undo =>
      refine .rest rfl ⟨_, List.mem_cons_self, rfl⟩ fun x hx => ?_
      rw [List.mem_singleton.mp hx]
      exact nofun

/-- A cycle that is skipped was about to open, within the window behind the last request. -/
theorem Deed.debounced {c : Context} {s : State} {t : Task} {p : Piece} (h : Deed c s t p)
    (hnext : p.task.cycle? = some (.ended .debounced)) :
    s.running = true ∧ p.state = s ∧ ∃ last, s.lastCycle = some last ∧
      Duration.between last c.now < debounceWindow := by
  cases h with
  | cycle _ hstep =>
      rw [Task.cycle?_task] at hnext
      cases hnext
      cases hstep with
      | debounced hrun hlast hsoon => exact ⟨hrun, rfl, _, hlast, hsoon⟩
  | undo hphase | release hphase => cases hphase <;> exact absurd hnext nofun
  | refuse | enter | firstOver | arm | pass | lieDown | retire | wake | scheduledOver =>
      exact absurd hnext nofun

/-- A cycle that opens late enough in a running poller begins a request. -/
theorem Deed.asks_of_late {c : Context} {s : State} {t : Task} {p : Piece} (h : Deed c s t p)
    (hready : t.cycle? = some .ready) (hrun : s.running = true)
    (hlate : ∀ last, s.lastCycle = some last →
      ¬ Duration.between last c.now < debounceWindow) :
    p.effects = [.request c.place s.config.endpoint] := by
  cases h with
  | cycle ht hstep =>
      rw [ht, Task.cycle?_task] at hready
      cases hready
      cases hstep with
      | notRunning hstop => exact absurd (hrun.symm.trans hstop) Bool.true_eq_false.mp
      | debounced _ hlast hsoon => exact absurd hsoon (hlate _ hlast)
      | request => rfl
  | undo hphase | release hphase => cases hphase <;> exact absurd hready nofun
  | lieDown hphase => rcases hphase with rfl | rfl <;> exact absurd hready nofun
  | retire hphase => cases hphase <;> exact absurd hready nofun
  | refuse | enter | firstOver | arm | pass | wake | scheduledOver => exact absurd hready nofun

namespace System

/-- Stopping a running poller clears the clock and is seen; a stopped one has none. -/
theorem pulse_of_stop {s : System} (hs : s.state.Sound) :
    Pulse s.now s.state s.stop.1.state s.stop.2 := by
  have hclear : s.stop.1.state.lastCycle = none := by
    rw [state_stop]
    rfl
  have htold : ∀ x ∈ s.stop.2,
      x.kind = .other ∨ (s.state.running = true ∧ x.kind = .halt) := by
    intro x hx
    have hnote : x ∈ (if s.state.running then [Effect.note .stopped] else []) →
        s.state.running = true ∧ x.kind = .halt := by
      intro hx
      split at hx
      · rename_i hrun
        rw [List.mem_singleton.mp hx]
        exact ⟨hrun, rfl⟩
      · exact absurd hx List.not_mem_nil
    simp only [stop] at hx
    split at hx
    · rcases List.mem_cons.mp hx with rfl | hx
      · exact Or.inl rfl
      · exact Or.inr (hnote hx)
    · exact Or.inr (hnote hx)
  rcases Bool.eq_false_or_eq_true s.state.running with hrun | hstopped
  · refine .rest hclear ⟨.note .stopped, ?_, rfl⟩ fun x hx => ?_
    · simp only [stop, hrun, if_true]
      split
      · exact List.mem_cons_of_mem _ List.mem_cons_self
      · exact List.mem_cons_self
    · rcases htold x hx with hkind | ⟨_, hkind⟩ <;> (rw [hkind]; decide)
  · refine .still (hclear.trans (hs.stopped hstopped).2.1.symm) fun x hx => ?_
    rcases htold x hx with hkind | ⟨hrun, _⟩
    · rw [hkind]
      decide
    · rw [hstopped] at hrun
      exact absurd hrun Bool.false_ne_true

/-- A transition begins a request, ends the running period, or leaves the clock alone; and time
does not go back. -/
theorem pulse_of_apply {s t : System} {e : Event} {effects : List Effect} (hs : s.state.Sound)
    (h : s.apply e = some (t, effects)) :
    Pulse s.now s.state t.state effects ∧ s.now ≤ t.now := by
  obtain ⟨u, hact, rfl⟩ := apply_eq_some_iff.mp h
  have hpulse : Pulse s.now s.state u.state effects ∧ s.now ≤ u.now := by
    cases act_eq_some_iff.mp hact with
    | start | poll | deliver | drop | clearHistory | retain | release =>
        exact ⟨.still_of_nil rfl, Nat.le_refl _⟩
    | tick => exact ⟨.still_of_nil rfl, Nat.le_add_right _ _⟩
    | step _ _ hp => exact ⟨(Task.deed_of_piece hp).pulse, Nat.le_refl _⟩
    | abort =>
        refine ⟨.still_of_other rfl fun x hx => ?_, Nat.le_refl _⟩
        rw [List.mem_singleton.mp hx]
        rfl
    | configure =>
        refine ⟨.still_of_other rfl fun x hx => ?_, Nat.le_refl _⟩
        rcases List.mem_append.mp hx with hmerge | hlast
        · exact State.kind_of_mem_mergeNotes hmerge
        · rw [List.mem_singleton.mp hlast]
          rfl
    | stop =>
        refine ⟨pulse_of_stop hs, Nat.le_of_eq ?_⟩
        simp only [stop]
        split <;> rfl
  have hclock := lastCycle_reap u
  refine ⟨?_, by rw [now_reap]; exact hpulse.2⟩
  cases hpulse.1 with
  | ask hrun hlate hset heffects => exact .ask hrun hlate (hclock.trans hset) heffects
  | rest hset hhalts hsilent => exact .rest (hclock.trans hset) hhalts hsilent
  | still hset hsilent => exact .still (hclock.trans hset) hsilent

/-! ## What the clock shows -/

/-- The clock of the poller shows the last request of the running period in the timeline. -/
structure Clock (line : List (Nat × Effect)) (s : System) : Prop where
  past : ∀ x ∈ line, x.1 ≤ s.now
  asked : ∀ last, s.state.lastCycle = some last → Asked line last
  latest : ∀ instant, Asked line instant → ∃ last, s.state.lastCycle = some last ∧ instant ≤ last

theorem clock_new (hint : String) : Clock [] (new hint) where
  past x hx := absurd hx List.not_mem_nil
  asked last h := absurd h nofun
  latest instant h := by
    obtain ⟨first, place, endpoint, rest, hempty, _⟩ := h
    exact absurd hempty.symm (by simp)

/-- No request of a timeline lies ahead. -/
theorem Clock.le_now {line : List (Nat × Effect)} {s : System} (hs : Clock line s) {instant : Nat}
    (h : Asked line instant) : instant ≤ s.now := by
  obtain ⟨first, place, endpoint, rest, rfl, _⟩ := h
  exact hs.past _ (List.mem_append_right _ List.mem_cons_self)

/-- Every transition leaves a clock that shows the last request. -/
theorem Clock.apply {line : List (Nat × Effect)} {s t : System} {e : Event}
    {effects : List Effect} (hs : Clock line s) (hsound : s.state.Sound)
    (h : s.apply e = some (t, effects)) :
    Clock (line ++ effects.map fun x => (s.now, x)) t := by
  obtain ⟨hpulse, htime⟩ := pulse_of_apply hsound h
  have hkind : ∀ {k : Effect.Kind}, (∀ x ∈ effects, x.kind ≠ k) →
      ∀ x ∈ effects.map fun x => (s.now, x), x.2.kind ≠ k := by
    intro k heffects x hx
    obtain ⟨y, hy, rfl⟩ := List.mem_map.mp hx
    exact heffects y hy
  have hpast : ∀ x ∈ line ++ effects.map fun x => (s.now, x), x.1 ≤ t.now := by
    intro x hx
    rcases List.mem_append.mp hx with hold | hnew
    · exact Nat.le_trans (hs.past x hold) htime
    · obtain ⟨y, _, rfl⟩ := List.mem_map.mp hnew
      exact htime
  cases hpulse with
  | @ask place endpoint _ _ hclock heffects =>
      subst heffects
      refine ⟨hpast, fun last hlast => ?_, fun instant hasked => ⟨s.now, hclock, ?_⟩⟩
      · rw [hclock] at hlast
        cases hlast
        exact Asked.append_request line s.now place endpoint
      · rcases hasked.of_append with ⟨x, hx, rfl, _⟩ | ⟨hbefore, _⟩
        · exact Nat.le_of_eq (congrArg Prod.fst (List.mem_singleton.mp hx))
        · exact hs.le_now hbefore
  | rest hclock hhalts hsilent =>
      refine ⟨hpast, fun last hlast => ?_, fun instant hasked => ?_⟩
      · rw [hclock] at hlast
        exact absurd hlast nofun
      · rcases hasked.of_append with ⟨x, hx, _, hrequest⟩ | ⟨_, hgoes⟩
        · exact absurd hrequest (hkind hsilent x hx)
        · obtain ⟨x, hx, hhalt⟩ := hhalts
          exact absurd hhalt (hgoes _ (List.mem_map_of_mem hx))
  | still hclock hsilent =>
      refine ⟨hpast, fun last hlast => ?_, fun instant hasked => ?_⟩
      · rw [hclock] at hlast
        exact (hs.asked last hlast).append (hkind fun x hx => (hsilent x hx).2)
      · rw [hclock]
        rcases hasked.of_append with ⟨x, hx, _, hrequest⟩ | ⟨hbefore, _⟩
        · exact absurd hrequest (hkind (fun x hx => (hsilent x hx).1) x hx)
        · exact hs.latest instant hbefore

theorem clock_of_run {hint : String} {events : List Event} {s : System} {effects : List Effect}
    (hrun : (new hint).run events = some (s, effects)) :
    Clock ((new hint).timeline events) s :=
  record_induction (P := Clock) clock_new
    (fun hreach hs _ happly => hs.apply (sound_of_reachable hreach) happly)
    (heeds_anything (new hint) events) hrun

/-! ## How far requests are apart -/

/-- A request begins at least the window behind every earlier one of the running period. -/
theorem Clock.spaced {line : List (Nat × Effect)} {s : System} (hs : Clock line s)
    (hlate : ∀ last, s.state.lastCycle = some last →
      ¬ Duration.between last s.now < debounceWindow) {earlier : Nat}
    (h : Asked line earlier) : debounceWindow ≤ .between earlier s.now := by
  obtain ⟨last, hlast, hle⟩ := hs.latest earlier h
  have hfar : debounceWindow.nanos ≤ s.now - last := Nat.le_of_not_lt (hlate last hlast)
  exact Nat.le_trans hfar (Nat.sub_le_sub_left hle _)

/-- So does a request among what is seen of a transition. -/
theorem Clock.spaced_of_apply {line before after : List (Nat × Effect)} {x : Nat × Effect}
    {s t : System} {e : Event} {effects : List Effect} (hs : Clock line s)
    (hsound : s.state.Sound) (h : s.apply e = some (t, effects))
    (hentries : (effects.map fun x => (s.now, x)) = before ++ x :: after)
    (hrequest : x.2.kind = .request) {earlier : Nat} (hasked : Asked (line ++ before) earlier) :
    debounceWindow ≤ .between earlier x.1 := by
  have hseen : x.2 ∈ effects := by
    have hx : x ∈ effects.map fun x => (s.now, x) := by
      rw [hentries]
      exact List.mem_append_right _ List.mem_cons_self
    obtain ⟨y, hy, rfl⟩ := List.mem_map.mp hx
    exact hy
  cases (pulse_of_apply hsound h).1 with
  | ask _ hlate _ heffects =>
      -- nothing else is seen of this transition
      rw [heffects, List.map_singleton] at hentries
      cases before with
      | nil =>
          cases hentries
          rw [List.append_nil] at hasked
          exact hs.spaced hlate hasked
      | cons y before =>
          have htail : [] = before ++ x :: after := (List.cons.inj hentries).2
          exact absurd htail.symm (by simp)
  | rest _ _ hsilent => exact absurd hrequest (hsilent _ hseen)
  | still _ hsilent => exact absurd hrequest (hsilent _ hseen).1

/-- In every run, whose timeline shows all that is seen of it: a request begins at least the window
behind every earlier request since which no running period has ended.  A cycle is skipped only in a
running poller and within the window behind a request of the running period, and leaves the clock
of requests alone; and a cycle that opens at least the window behind the last request of the
running period begins a request. -/
theorem requests_spaced_by_window {hint : String} {events : List Event} {s : System}
    {effects : List Effect} (hrun : (new hint).run events = some (s, effects)) :
    ((new hint).timeline events).map (·.2) = effects ∧
    (∀ first last later place endpoint,
      (new hint).timeline events = first ++ (later, .request place endpoint) :: last →
      ∀ earlier, Asked first earlier → debounceWindow ≤ .between earlier later) ∧
    (∀ id t told, s.apply (.step id) = some (t, told) →
      t.cycle? id = some (.ended .debounced) →
      s.state.running = true ∧
        (∃ earlier, Asked ((new hint).timeline events) earlier ∧
          Duration.between earlier s.now < debounceWindow) ∧
        t.state.lastCycle = s.state.lastCycle) ∧
    (∀ id t told, s.cycle? id = some .ready → s.apply (.step id) = some (t, told) →
      s.state.running = true →
      (∀ last, Asked ((new hint).timeline events) last →
        (∀ instant, Asked ((new hint).timeline events) instant → instant ≤ last) →
        debounceWindow ≤ .between last s.now) →
      told = [.request id s.state.config.endpoint]) := by
  have hclock := clock_of_run hrun
  refine ⟨map_snd_timeline hrun, ?_, ?_, ?_⟩
  · intro first last later place endpoint hline
    have hspaced : Effect.kind (.request place endpoint) = .request →
        ∀ earlier, Asked first earlier → debounceWindow ≤ .between earlier later :=
      entry_induction (P := Clock)
        (Q := fun first x => x.2.kind = .request →
          ∀ earlier, Asked first earlier → debounceWindow ≤ .between earlier x.1)
        clock_new (fun hreach hs _ happly => hs.apply (sound_of_reachable hreach) happly)
        (fun hreach hs _ happly hentries hrequest _ hasked =>
          hs.spaced_of_apply (sound_of_reachable hreach) happly hentries hrequest hasked)
        (heeds_anything (new hint) events) hrun hline
    exact hspaced rfl
  · intro id t told happly hskipped
    obtain ⟨u, hact, _⟩ := apply_eq_some_iff.mp happly
    obtain ⟨slot, _, hslot, _⟩ := step_eq_some_iff.mp hact
    obtain ⟨p, hdeed, rfl, _, htask⟩ :=
      deed_of_step (task?_eq_some_iff.mpr ⟨slot, hslot, rfl⟩) happly
    have hnext : p.task.cycle? = some (.ended .debounced) := by
      unfold cycle? at hskipped
      rw [htask] at hskipped
      exact hskipped
    obtain ⟨hrunning, hstate, last, hlast, hsoon⟩ := hdeed.debounced hnext
    refine ⟨hrunning, ⟨last, hclock.asked last hlast, hsoon⟩, ?_⟩
    have hsame : (s.leave id p).state = s.state := hstate
    rw [lastCycle_reap, hsame]
  · intro id t told hready happly hrunning hlate
    obtain ⟨task, htask, hcycle⟩ := Option.bind_eq_some_iff.mp hready
    obtain ⟨p, hdeed, _, rfl, _⟩ := deed_of_step htask happly
    refine hdeed.asks_of_late hcycle hrunning fun last hlast => ?_
    refine Nat.not_lt_of_le (hlate last (hclock.asked last hlast) fun instant hasked => ?_)
    obtain ⟨last', hlast', hle⟩ := hclock.latest instant hasked
    rw [hlast] at hlast'
    cases hlast'
    exact hle

/-- A start off the whole milliseconds, a call for one cycle when the window is just over, and
another one just within it. -/
def steadyPolling : List Event :=
  [.tick (.ofMicros 600), .start .none, .step 0, .step 0, .tick (.ofMillis 200), .poll, .step 1,
    .tick (.ofMicros 199900), .poll]

theorem requests_spaced_of_steadyPolling :
    ∃ s effects t told front,
      (new "").run steadyPolling = some (s, effects) ∧
      (new "").timeline steadyPolling = front ++ [(200600000, .request 1 "/api/event_result")] ∧
      Asked front 600000 ∧ debounceWindow ≤ .between 600000 200600000 ∧
      s.apply (.step 2) = some (t, told) ∧ t.cycle? 2 = some (.ended .debounced) ∧
      s.state.running = true ∧ t.state.lastCycle = s.state.lastCycle := by
  have hrun : (new "").run steadyPolling = some (_, _) := rfl
  have hline : (new "").timeline steadyPolling =
      [(600000, .note (.started "/api/event_result" (.ofMillis 5000))),
        (600000, .request 0 "/api/event_result")] ++
          [(200600000, .request 1 "/api/event_result")] := rfl
  have hasked : Asked [(600000, .note (.started "/api/event_result" (.ofMillis 5000))),
      (600000, .request 0 "/api/event_result")] 600000 := Asked.append_request [_] 600000 0 _
  obtain ⟨_, hspaced, hskipped, _⟩ := requests_spaced_by_window hrun
  obtain ⟨hrunning, _, hclock⟩ := hskipped 2 _ _ rfl rfl
  exact ⟨_, _, _, _, _, hrun, hline, hasked, hspaced _ _ _ _ _ hline 600000 hasked, rfl, rfl,
    hrunning, hclock⟩

end System

end AlarmMonitor.Polling
