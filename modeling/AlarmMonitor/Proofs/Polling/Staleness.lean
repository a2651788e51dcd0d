import AlarmMonitor.Proofs.Polling.Lifecycle
import AlarmMonitor.Proofs.Polling.Log
import AlarmMonitor.Proofs.Polling.Request

/-!
# Replies to an earlier running period

A cycle compares two things when its reply is looked at: is the poller running, and in the session
of the request?  Since pauses and running periods are numbered, and no number comes back, these two
show every stop, every undone start and every restart that happened in between.

* `System.run_within_session`: a run that ends in the session of its beginning never left it;
* `System.processed_in_session_of_request`: a reply is taken in only if the poller was in the
  session of the request all the time, and otherwise nothing comes of it.
-/

set_option autoImplicit false

namespace AlarmMonitor.Polling

namespace System

/-! ## Moments of one session -/

/-- A run that ends in the session in which it began was in this session all the time: it was
neither stopped nor undone, and no other session began. -/
theorem run_within_session {s u : System} {events : List Event} {effects : List Effect}
    (h : s.run events = some (u, effects)) (hs : s.state.running = true)
    (hu : u.state.running = true) (hsession : u.state.session = s.state.session) :
    (∀ before after t first, events = before ++ after → s.run before = some (t, first) →
      t.state.running = true ∧ t.state.session = s.state.session) ∧
    ∀ m ∈ s.log events, m.turns = false := by
  have hepoch : u.state.epoch = s.state.epoch := by
    rw [State.epoch_of_running hu, State.epoch_of_running hs, hsession]
  constructor
  · intro before after t first hsplit hbefore
    rw [hsplit] at h
    obtain ⟨t', _, _, hfirst, hlater, _⟩ := run_append_eq_some_iff.mp h
    rw [hbefore] at hfirst
    cases hfirst
    have hmiddle : t.state.epoch = s.state.epoch :=
      Nat.le_antisymm (hepoch ▸ epoch_le_of_run hlater) (epoch_le_of_run hbefore)
    exact State.running_of_epoch_eq hmiddle hs
  · intro m hm
    rw [Bool.eq_false_iff]
    intro hturns
    obtain ⟨before, e, after, t, v, _, _, _, _, hbefore, happly, hafter, hmark⟩ :=
      exists_moment_of_mem_log h hm
    have hfirst := epoch_le_of_run hbefore
    have hlast := epoch_le_of_run hafter
    have hstep := epoch_le_of_apply happly
    have hmiddle : t.state.epoch = s.state.epoch := by omega
    have hrun := (State.running_of_epoch_eq hmiddle hs).1
    have hlater := epoch_lt_of_turns happly hrun hmark hturns
    omega

/-! ## What comes of a reply -/

/-- The task at `id` begins a request, and its next own step, after any other transitions, looks
at the reply.  If the reply is taken in, then the poller was running in the session of the request
at every moment in between: it was not stopped, no start was undone and no session began.  And if
one of these happened, then the step neither changes the history nor hands anything to the sink,
and the cycle is discarded, has failed or was dropped. -/
theorem processed_in_session_of_request {s₀ s₁ s₂ s₃ : System} {id : Nat} {endpoint : String}
    {requested seen closed : List Effect} {between : List Event} (hreach : Reachable s₀)
    (hrequest : s₀.apply (.step id) = some (s₁, requested))
    (hbegan : .request id endpoint ∈ requested)
    (hbetween : s₁.run between = some (s₂, seen)) (hown : .step id ∉ between)
    (hreply : s₂.apply (.step id) = some (s₃, closed)) :
    (∀ fetched surfaced texts, s₃.cycle? id = some (.showing fetched surfaced texts) →
      (∀ before after t first, between = before ++ after → s₁.run before = some (t, first) →
        t.state.running = true ∧ t.state.session = s₀.state.session) ∧
      ∀ m ∈ s₁.log between, m.turns = false) ∧
    ((∃ m ∈ s₁.log between, m.turns = true) →
      s₃.state.seen = s₂.state.seen ∧ (∀ text, .show text ∉ closed) ∧
        (s₃.cycle? id = none ∨ s₃.cycle? id = some (.ended .discarded) ∨
          s₃.cycle? id = some (.ended .fetchFailed))) := by
  obtain ⟨o, htask₀, htask₁, hrun₁, hsession₁⟩ := flight_of_request hrequest hbegan
  obtain ⟨t, htask₂, hflight⟩ := flight_of_run htask₁ .waiting hbetween hown
  obtain ⟨u, hact, rfl⟩ := apply_eq_some_iff.mp hreply
  obtain ⟨slot, p, hslot, _, hp, rfl, rfl⟩ := step_eq_some_iff.mp hact
  have htask : slot.task = t :=
    Option.some.inj ((task?_eq_some_iff.mpr ⟨slot, hslot, rfl⟩).symm.trans htask₂)
  rw [htask] at hp
  have hcycle : (s₂.leave id p).reap.cycle? id = p.task.cycle? := by
    unfold cycle?
    rw [task?_reap, task?_leave_self hslot]
    rfl
  -- a poller that is in the session of the request at the end was in it all the time
  have hcurrent : s₂.state.running = true → s₂.state.session = s₀.state.session →
      (∀ before after t first, between = before ++ after → s₁.run before = some (t, first) →
        t.state.running = true ∧ t.state.session = s₀.state.session) ∧
      ∀ m ∈ s₁.log between, m.turns = false := by
    intro hrun₂ hsession₂
    rw [← hsession₁] at hsession₂ ⊢
    exact run_within_session hbetween hrun₁ hrun₂ hsession₂
  -- the guard of a start cannot meet its own session again once another one has begun
  have hguard : ∀ n, o = .start n → s₂.state.running = true → s₂.state.session = n →
      s₂.state.session = s₀.state.session := by
    rintro n rfl _ hn
    obtain ⟨slot₀, hslot₀, hstart⟩ := task?_eq_some_iff.mp htask₀
    have hrole : s₀.role id = .opening n := by
      rw [role_of_getElem? hslot₀]
      exact Slot.role_eq_opening_iff.mpr (hstart ▸ rfl)
    have hle := (lifecycle_of_reachable hreach).opening_le hrole
    have hge := State.session_le_of_epoch_le (epoch_le_of_run hbetween)
    omega
  rw [hcycle]
  rcases hflight.piece hp with ⟨hstate, hshow, hend⟩ | ⟨n, hstart, hrun₂, hn, hnone⟩ |
      ⟨hrun₂, hsession₂⟩
  · constructor
    · intro fetched surfaced texts hshowing
      rw [hshowing] at hend
      rcases hend with h | h | h <;> exact absurd h nofun
    · intro _
      refine ⟨?_, hshow, hend⟩
      have hseen : (s₂.leave id p).state = s₂.state := hstate
      rcases state_reap (s₂.leave id p) with hreap | hreap
      · rw [hreap, hseen]
      · rw [hreap, hseen]
  · have hall := hcurrent hrun₂ (hguard n hstart hrun₂ hn)
    constructor
    · intro fetched surfaced texts hshowing
      rw [hnone] at hshowing
      exact absurd hshowing nofun
    · rintro ⟨m, hm, hturns⟩
      rw [hall.2 m hm] at hturns
      exact absurd hturns Bool.false_ne_true
  · have hall := hcurrent hrun₂ hsession₂
    constructor
    · intro _ _ _ _
      exact hall
    · rintro ⟨m, hm, hturns⟩
      rw [hall.2 m hm] at hturns
      exact absurd hturns Bool.false_ne_true

/-- A poller is stopped and started again before the reply to its first request comes: the reply
is discarded. -/
theorem discarded_after_restart :
    ∃ s₀ s₁ s₂ s₃ effects requested seen closed,
      (new "").run [.start .none, .step 0] = some (s₀, effects) ∧
      s₀.apply (.step 0) = some (s₁, requested) ∧
      s₁.run [.stop, .start .none, .step 1, .deliver 0 (.body "[1]")] = some (s₂, seen) ∧
      s₂.apply (.step 0) = some (s₃, closed) ∧ s₂.state.running = true ∧
      s₃.state.seen = s₂.state.seen ∧ s₃.cycle? 0 = some (.ended .discarded) := by
  refine ⟨_, _, _, _, _, _, _, _, rfl, rfl, rfl, rfl, rfl, ?_, rfl⟩
  have hreach : Reachable _ := ⟨"", [.start .none, .step 0], _, rfl⟩
  have hreply := @processed_in_session_of_request _ _ _ _ 0 _ _ _ _
    [.stop, .start .none, .step 1, .deliver 0 (.body "[1]")] hreach rfl
    (List.mem_singleton.mpr rfl) rfl (by decide) rfl
  exact (hreply.2 ⟨.stopped, List.mem_cons_self, rfl⟩).1

end System

end AlarmMonitor.Polling
