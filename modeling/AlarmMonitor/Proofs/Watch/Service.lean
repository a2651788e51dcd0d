import AlarmMonitor.Proofs.Watch.Course

/-!
# What a watch has made of its poller

In a watch whose poller nobody else starts or stops, the point at which the check at boot or the
observer stands says what the poller is: at rest, in one start, or running.

* `Boot.Holds`, `Boot.Holds.step`: along the check at boot;
* `Observer.Holds`, `Observer.Holds.step`: along the observer, which acts on the latest status it
  has seen;
* `Course.running_iff`: what an idle observer leaves behind;
* `Course.rests_of_stopped`: the poller at a reset.
-/

set_option autoImplicit false

namespace AlarmMonitor.Watch

open AlarmMonitor.Install (Status Cell Subscription)

/-- The poller is stopped, and no start of it is under way. -/
def Rests (p : Polling.System) : Prop := p.NoStart ∧ p.state.running = false

/-! ## Beside the tasks -/

namespace System.Beside

variable {s t : System} {e : Event} {effects : List Effect}

theorem noStart (h : Beside s e t effects) (he : s.unaided e = true) (hs : s.polling.NoStart) :
    t.polling.NoStart ∧ t.polling.state.running = s.polling.state.running := by
  rcases h.polling with ⟨_, heq⟩ | ⟨pe, seen, hpe, hp⟩
  · rw [heq]
    exact ⟨hs, rfl⟩
  · exact hs.apply (abstains_of_unaided he hpe) hp

theorem underway (h : Beside s e t effects) (he : s.unaided e = true)
    (hreach : s.polling.Reachable) {call : Nat} (hs : s.polling.Underway call) :
    t.polling.Underway call := by
  rcases h.polling with ⟨_, heq⟩ | ⟨pe, seen, hpe, hp⟩
  · rw [heq]
    exact hs
  · exact hs.apply hreach (abstains_of_unaided he hpe) hp

theorem rests (h : Beside s e t effects) (he : s.unaided e = true) (hs : Rests s.polling) :
    Rests t.polling := by
  obtain ⟨hnone, hrun⟩ := h.noStart he hs.1
  exact ⟨hnone, hrun.trans hs.2⟩

end System.Beside

/-! ## The check at boot -/

/-- What the check at boot has made of the poller. -/
def Boot.Holds (p : Polling.System) : Boot → Prop
  | .ready | .waiting | .answered _ | .acting _ => Rests p
  | .starting v call => v = .install ∧ p.Underway call
  | .stopped v => v = .uninstall ∧ Rests p
  | .ended result => p.NoStart ∧ (p.state.running = true ↔ result = some .install)

theorem Boot.Holds.ended_of_rests {p : Polling.System} {result : Option Status} (h : Rests p)
    (hresult : result ≠ some .install) : Boot.Holds p (.ended result) := by
  refine ⟨h.1, fun hrun => ?_, fun heq => absurd heq hresult⟩
  rw [h.2] at hrun
  exact absurd hrun nofun

theorem Boot.Holds.step {s : System} {id : Nat} {before phase : Boot} {p : Polling.System}
    {c : Cell} {effects : List Effect} (h : before.Holds s.polling)
    (hstep : Boot.Step s id before p c phase effects) : phase.Holds p := by
  cases hstep with
  | ask | reported => exact h
  | failed | unrecognised => exact .ended_of_rests h nofun
  | start hp =>
      obtain ⟨hnone, _⟩ := h
      exact ⟨rfl, hnone.begin hp⟩
  | stop hp =>
      obtain ⟨hnone, _⟩ := h
      exact ⟨rfl, hnone.stop hp⟩
  | started hover =>
      obtain ⟨rfl, hunderway⟩ := h
      obtain ⟨hnone, hrun⟩ := hunderway.over hover
      exact ⟨hnone, fun _ => rfl, fun _ => hrun⟩
  | reset =>
      obtain ⟨rfl, hrests⟩ := h
      exact .ended_of_rests hrests nofun

theorem Boot.Holds.beside {s t : System} {e : Event} {effects : List Effect} {phase : Boot}
    (h : phase.Holds s.polling) (hbeside : s.Beside e t effects) (he : s.unaided e = true)
    (hreach : s.polling.Reachable) : phase.Holds t.polling := by
  cases phase with
  | ready | waiting | answered | acting => exact hbeside.rests he h
  | starting v call => exact ⟨h.1, hbeside.underway he hreach h.2⟩
  | stopped v => exact ⟨h.1, hbeside.rests he h.2⟩
  | ended result =>
      obtain ⟨hnone, hrun⟩ := hbeside.noStart he h.1
      exact ⟨hnone, by rw [hrun]; exact h.2⟩

/-- A watch with one launch, whose check at boot has made of the poller what it should. -/
structure System.Booting (s : System) : Prop extends s.Manned where
  holds : ∀ {phase}, s.Boots phase → phase.Holds s.polling

theorem System.Booting.apply {s t : System} {e : Event} {effects : List Effect} (hs : s.Booting)
    (he : s.unaided e = true) (h : s.apply e = some (t, effects)) : t.Booting := by
  have hact := act_of_apply h
  refine ⟨hs.toManned.act (admits_of_unaided he) hact, fun {phase} hboots => ?_⟩
  cases boots_of_act hs.toManned (admits_of_unaided he) hact hboots with
  | steps hbefore hstep => exact (hs.holds hbefore).step hstep
  | stays hbefore hbeside => exact (hs.holds hbefore).beside hbeside he hs.reachable
  | answered hbefore hpolling =>
      have hrests : Rests s.polling := hs.holds hbefore
      rw [← hpolling] at hrests
      exact hrests

theorem System.booting_build (hint : String) (options : Polling.Options)
    (settings : Install.Settings) (initial : Status) :
    (build hint options settings initial).Booting := by
  refine ⟨manned_build hint options settings initial, ?_⟩
  obtain ⟨p, seen, hp, heq⟩ := build_eq hint options settings initial
  rw [heq]
  rintro phase (htask | ⟨_, rfl⟩)
  · exact absurd htask nofun
  · have hnone : (Polling.System.new hint).NoStart := Polling.System.noStart_new hint
    exact hnone.apply rfl hp

/-! ## The observer -/

/-- What the poller is to follow.  As long as the status has not changed since the launch returned,
that is what the check at boot found. -/
def goal (version : Nat) (result : Option Status) (c : Cell) : Option Status :=
  if c.version = version then result else some c.value

/-- What an observer has made of the poller that subscribed at this version, behind a boot check
with this result.  Where it has seen the latest status, it acts on that. -/
def Observer.Holds (version : Nat) (result : Option Status) (p : Polling.System) (c : Cell)
    (sub : Subscription) : Observer → Prop
  | .watching => p.NoStart ∧ version ≤ sub.seen ∧
      (sub.seen = c.version → (p.state.running = true ↔ goal version result c = some .install))
  | .acting v => p.NoStart ∧ version < sub.seen ∧ (sub.seen = c.version → c.value = v)
  | .starting call => p.Underway call ∧ version < sub.seen ∧
      (sub.seen = c.version → c.value = .install)
  | .stopped => Rests p ∧ version < sub.seen ∧ (sub.seen = c.version → c.value = .uninstall)
  | .ended => True

theorem goal_of_lt {version : Nat} {result : Option Status} {c : Cell} {sub : Subscription}
    (hlt : version < sub.seen) (hseen : sub.seen = c.version) :
    goal version result c = some c.value :=
  if_neg (Nat.ne_of_gt (hseen ▸ hlt))

theorem Observer.Holds.step {version : Nat} {result : Option Status} {s : System}
    {sub sub' : Subscription} {before phase : Observer} {p : Polling.System}
    {effects : List Effect} (h : before.Holds version result s.polling s.cell sub)
    (hle : sub.seen ≤ s.cell.version) (hstep : Observer.Step s sub before p sub' phase effects) :
    phase.Holds version result p s.cell sub' := by
  cases hstep with
  | look hnew =>
      have hlt : version < s.cell.version :=
        Nat.lt_of_le_of_lt h.2.1 (Nat.lt_of_le_of_ne hle (Ne.symm hnew))
      exact ⟨h.1, hlt, fun _ => rfl⟩
  | close => trivial
  | start hp =>
      obtain ⟨hnone, hlt, hvalue⟩ := h
      exact ⟨hnone.begin hp, hlt, hvalue⟩
  | stop hp =>
      obtain ⟨hnone, hlt, hvalue⟩ := h
      exact ⟨hnone.stop hp, hlt, hvalue⟩
  | started hover =>
      obtain ⟨hunderway, hlt, hvalue⟩ := h
      obtain ⟨hnone, hrun⟩ := hunderway.over hover
      refine ⟨hnone, Nat.le_of_lt hlt, fun hseen => ?_⟩
      rw [goal_of_lt hlt hseen, hvalue hseen]
      exact ⟨fun _ => rfl, fun _ => hrun⟩
  | reset =>
      obtain ⟨hrests, hlt, hvalue⟩ := h
      refine ⟨hrests.1, Nat.le_of_lt hlt, fun hseen => ?_⟩
      rw [goal_of_lt hlt hseen, hvalue hseen, hrests.2]
      exact ⟨nofun, nofun⟩

/-- Where the observer has seen the latest status behind a change of the status, there was no
transition. -/
theorem Turn.same_of_seen {c next : Cell} {seen : List Effect} {sub : Subscription}
    (h : Turn c next seen) (hle : sub.seen ≤ c.version) (hseen : sub.seen = next.version) :
    next.value = c.value ∧ next.version = c.version := by
  cases h with
  | still hvalue hversion => exact ⟨hvalue, hversion⟩
  | flip _ hversion => omega

theorem Observer.Holds.beside {version : Nat} {result : Option Status} {s t : System} {e : Event}
    {effects : List Effect} {sub : Subscription} {phase : Observer}
    (h : phase.Holds version result s.polling s.cell sub) (hle : sub.seen ≤ s.cell.version)
    (hbeside : s.Beside e t effects) (he : s.unaided e = true) (hreach : s.polling.Reachable) :
    phase.Holds version result t.polling t.cell sub := by
  have hvalue : ∀ {v : Status}, (sub.seen = s.cell.version → s.cell.value = v) →
      sub.seen = t.cell.version → t.cell.value = v := by
    intro v hbefore hseen
    obtain ⟨hsame, hversion⟩ := hbeside.turn.same_of_seen hle hseen
    exact hsame.trans (hbefore (hseen.trans hversion))
  cases phase with
  | watching =>
      obtain ⟨hnone, hge, hgoal⟩ := h
      obtain ⟨hnone', hrun⟩ := hbeside.noStart he hnone
      refine ⟨hnone', hge, fun hseen => ?_⟩
      obtain ⟨hsame, hversion⟩ := hbeside.turn.same_of_seen hle hseen
      have hgoal' : goal version result t.cell = goal version result s.cell := by
        simp only [goal, hsame, hversion]
      rw [hrun, hgoal']
      exact hgoal (hseen.trans hversion)
  | acting v =>
      obtain ⟨hnone, hlt, hacting⟩ := h
      exact ⟨(hbeside.noStart he hnone).1, hlt, hvalue hacting⟩
  | starting call =>
      obtain ⟨hunderway, hlt, hstarting⟩ := h
      exact ⟨hbeside.underway he hreach hunderway, hlt, hvalue hstarting⟩
  | stopped =>
      obtain ⟨hrests, hlt, hstopped⟩ := h
      exact ⟨hbeside.rests he hrests, hlt, hvalue hstopped⟩
  | ended => trivial

/-- A watch whose launch is over, and whose observer has made of the poller what it should. -/
structure System.Tended (version : Nat) (result : Option Status) (s : System) : Prop
    extends s.Settled where
  holds : ∀ {sub phase}, s.duty? 1 = some (sub, phase) →
    phase.Holds version result s.polling s.cell sub

theorem System.seen_le_of_duty? {s : System} (hs : s.Manned) {sub : Subscription}
    {phase : Observer} (hduty : s.duty? 1 = some (sub, phase)) : sub.seen ≤ s.cell.version :=
  hs.seen_le (task?_eq_some_iff.mpr ⟨_, duty?_eq_some_iff.mp hduty, rfl⟩)

theorem System.Tended.apply {version : Nat} {result : Option Status} {s t : System} {e : Event}
    {effects : List Effect} (hs : s.Tended version result) (he : s.unaided e = true)
    (h : s.apply e = some (t, effects)) : t.Tended version result := by
  have hadmits := admits_of_unaided he
  refine ⟨hs.toSettled.apply hadmits h, fun {sub phase} hduty => ?_⟩
  cases hs.tends hadmits h hduty with
  | steps hbefore hstep hcell =>
      rw [hcell]
      exact (hs.holds hbefore).step (seen_le_of_duty? hs.toManned hbefore) hstep
  | stays hbefore hbeside =>
      exact (hs.holds hbefore).beside (seen_le_of_duty? hs.toManned hbefore) hbeside he
        hs.reachable

/-! ## Courses -/

namespace Course

variable {rule : System → Event → Bool} {hint : String} {options : Polling.Options}
  {settings : Install.Settings} {initial : Status}
  (c : Course rule (.build hint options settings initial))

section

variable (hrule : ∀ {s e}, rule s e = true → s.unaided e = true)
include hrule

theorem opens : c.Opening :=
  c.opening (fun he => System.admits_of_unaided (hrule he))
    (System.manned_build hint options settings initial)

theorem boots_at_return : c.ended.Boots (.ended c.result) :=
  c.boots_ended (fun he => System.admits_of_unaided (hrule he))
    (System.manned_build hint options settings initial)

theorem booting : c.ended.Booting :=
  System.heeding_induction (P := fun _ s => s.Booting)
    (fun hs he happly => hs.apply (hrule he) happly) []
    (System.booting_build hint options settings initial) c.heeds_first c.run_first

theorem tended : c.last.Tended c.returned.cell.version c.result := by
  have hopening := c.opens hrule
  refine System.heeding_induction (P := fun _ s => s.Tended c.returned.cell.version c.result)
    (fun hs he happly => hs.apply (hrule he) happly) [] ⟨hopening.settled, ?_⟩ c.heeds_rest
    c.run_rest
  intro sub phase hduty
  have hon := hopening.duty
  rw [hopening.observer_eq, hduty] at hon
  cases hon
  -- the observer begins with what the check at boot has left behind
  obtain ⟨hnone, hrun⟩ := (c.booting hrule).holds (c.boots_at_return hrule)
  obtain ⟨seen, hp⟩ := hopening.polling
  obtain ⟨hnone', hrun'⟩ := hnone.apply rfl hp
  refine ⟨hnone', Nat.le_refl _, fun _ => ?_⟩
  rw [hrun', goal, if_pos rfl]
  exact hrun

/-- Where the observer is idle, no start is under way, and the poller runs if the latest status
says so, or the check at boot if the status has not changed since the return. -/
theorem running_iff (hidle : c.last.isIdle c.observer = true) :
    c.last.polling.NoStart ∧ (c.last.polling.state.running = true ↔
      goal c.returned.cell.version c.result c.last.cell = some .install) := by
  have hopening := c.opens hrule
  obtain ⟨sub, hduty, hseen⟩ := System.isIdle_iff.mp hidle
  rw [hopening.observer_eq] at hduty
  obtain ⟨hnone, _, hgoal⟩ := (c.tended hrule).holds hduty
  exact ⟨hnone, hgoal hseen⟩

/-- Where the observer is about to reset the client, the poller is stopped. -/
theorem rests_of_stopped {sub : Subscription}
    (hduty : c.last.duty? c.observer = some (sub, .stopped)) : Rests c.last.polling := by
  have hopening := c.opens hrule
  rw [hopening.observer_eq] at hduty
  exact ((c.tended hrule).holds hduty).1

end

end Course

end AlarmMonitor.Watch
