import AlarmMonitor.Proofs.Polling.Mirror
import AlarmMonitor.Proofs.Watch.Resets

/-!
# The poller and the status

An idle observer has made the poller follow the status, or what the check at boot found where the
status has not changed since the launch returned.

* `Course.running_iff_status_iff`: when the poller agrees with a status that others set as well;
* `Course.follows_status`: a watch that has the status to itself until its launch has returned
  always agrees with it, and how often it resets the client.
-/

set_option autoImplicit false

namespace AlarmMonitor.Watch

open AlarmMonitor.Install (Status Cell Subscription)

/-! ## A status that others set as well -/

/-- As long as the version of a status is the same, so is the status. -/
theorem System.value_of_version {s t : System} {events : List Event} {effects : List Effect}
    (hrun : s.run events = some (t, effects)) :
    s.cell.version ≤ t.cell.version ∧
      (t.cell.version = s.cell.version → t.cell.value = s.cell.value) := by
  induction events generalizing s effects with
  | nil =>
      cases hrun
      exact ⟨Nat.le_refl _, fun _ => rfl⟩
  | cons e rest ih =>
      obtain ⟨u, first, later, happly, hrest, _⟩ := run_cons_eq_some_iff.mp hrun
      obtain ⟨hle, hvalue⟩ := ih hrest
      cases turn_of_act (act_of_apply happly) with
      | still hsame hversion =>
          refine ⟨hversion ▸ hle, fun heq => ?_⟩
          exact (hvalue (heq.trans hversion.symm)).trans hsame
      | flip _ hversion =>
          refine ⟨by omega, fun heq => ?_⟩
          omega

namespace Course

variable {hint : String} {options : Polling.Options} {settings : Install.Settings}
  {initial : Status}

/-- The status has changed since the launch returned, or was then what the check at boot had acted
on; a check that found nothing leaves the poller stopped, as for uninstalled. -/
def Followed {rule : System → Event → Bool} {new : System} (c : Course rule new) : Prop :=
  c.last.cell.version ≠ c.returned.cell.version ∨
    c.returned.cell.value = c.result.getD .uninstall

theorem goal_eq_install_iff {rule : System → Event → Bool} {new : System} (c : Course rule new) :
    (goal c.returned.cell.version c.result c.last.cell = some .install ↔
      c.last.cell.value = .install) ↔ c.Followed := by
  unfold goal Followed
  by_cases hversion : c.last.cell.version = c.returned.cell.version
  · rw [if_pos hversion, (System.value_of_version c.run_rest).2 hversion]
    have hresult : ∀ (result : Option Status) (v : Status),
        (result = some .install ↔ v = .install) ↔ v = result.getD .uninstall := by
      intro result v
      cases result with
      | none => cases v <;> decide
      | some found => cases found <;> cases v <;> decide
    rw [hresult]
    exact ⟨Or.inr, fun h => h.resolve_left fun hne => hne hversion⟩
  · rw [if_neg hversion]
    exact ⟨fun _ => Or.inl hversion, fun _ => Option.some_inj⟩

/-- Where the observer is idle, the poller runs exactly if the client counts as installed, if the
status has changed since the launch returned or was then what the check at boot had acted on; and
only then. -/
theorem running_iff_status_iff (c : Course System.unaided (.build hint options settings initial))
    (hidle : c.last.isIdle c.observer = true) :
    (c.last.polling.state.running = true ↔ c.last.cell.value = .install) ↔ c.Followed := by
  rw [(c.running_iff id hidle).2]
  exact c.goal_eq_install_iff

/-- A status that was installed all along is reported as installed by the loop. -/
def confirmedInstall : Course System.unaided (.build "" .none .standard .install) :=
  afterFailedBoot .install (.step 2 :: report .install) rfl (by decide)

/-- The poller stays stopped. -/
theorem stopped_at_confirmed_install :
    confirmedInstall.last.isIdle confirmedInstall.observer = true ∧
      Effect.note (.checked (.unchanged .install)) ∈ confirmedInstall.since ∧
      confirmedInstall.last.cell.value = .install ∧
      confirmedInstall.last.polling.state.running = false := ⟨rfl, by decide, rfl, rfl⟩

/-- A status that was installed is set to uninstalled before the observer looks, and is then
reported as installed. -/
def setBefore : Course System.unaided (.build "" .none .standard .install) :=
  afterFailedBoot .install (.set .uninstall :: beginStart ++ endStart) rfl (by decide)

theorem running_iff_status_of_setBefore :
    setBefore.Followed ∧
      (setBefore.last.polling.state.running = true ↔ setBefore.last.cell.value = .install) := by
  have hfollowed : setBefore.Followed := Or.inl (by decide)
  exact ⟨hfollowed, (running_iff_status_iff setBefore rfl).mpr hfollowed⟩

end Course

/-! ## A status that the watch has to itself -/

/-- What the check at boot has made of a status that was uninstalled, and how often it has reset
the client. -/
def Boot.Tells (value : Status) (resets : Nat) : Boot → Prop
  | .ready | .waiting | .answered _ => value = .uninstall ∧ resets = 0
  | .acting v | .starting v _ | .stopped v => value = v ∧ resets = 0
  | .ended result =>
    value = result.getD .uninstall ∧ resets = if result = some .uninstall then 1 else 0

theorem Boot.Tells.step {s : System} {id resets : Nat} {before phase : Boot} {p : Polling.System}
    {c : Cell} {effects : List Effect} (h : before.Tells s.cell.value resets)
    (hholds : before.Holds s.polling) (hstep : Boot.Step s id before p c phase effects) :
    phase.Tells c.value (resets + effects.count .reset) := by
  cases hstep with
  | ask | failed | unrecognised => exact h
  | reported _ hread _ hreset =>
      refine ⟨hread, ?_⟩
      rw [h.2, Nat.zero_add]
      refine List.count_eq_zero.mpr ?_
      rw [List.mem_cons, not_or]
      exact ⟨nofun, hreset⟩
  | start | stop =>
      refine ⟨h.1, ?_⟩
      rw [h.2, count_reset_map_poller]
  | started =>
      obtain ⟨rfl, _⟩ := hholds
      exact h
  | reset =>
      obtain ⟨rfl, _⟩ := hholds
      refine ⟨h.1, ?_⟩
      rw [h.2]
      rfl

namespace System

/-- Nobody but the check at boot sets the status before the launch has returned. -/
theorem not_set_of_secluded {s : System} {e : Event} {phase : Boot} (hs : s.Manned)
    (hboots : s.Boots phase) (he : s.secluded e = true) (v : Status) : e ≠ .set v := by
  rintro rfl
  obtain ⟨slot, hmem, hlaunched⟩ := List.any_eq_true.mp (Bool.and_eq_true_iff.mp he).2
  obtain ⟨place, hplace⟩ := List.mem_iff_getElem?.mp hmem
  rcases hboots with hlaunch | ⟨hnil, _⟩
  · have honly := (hs.only hlaunch (task?_eq_some_iff.mpr ⟨slot, hplace, rfl⟩)).2
    rw [honly] at hlaunched
    exact absurd hlaunched nofun
  · rw [hnil] at hplace
    exact absurd hplace nofun

/-- A handle on the poller outlasts an event that does not give up the last one. -/
theorem held_of_apply {p q : Polling.System} {e : Polling.Event} {seen : List Polling.Effect}
    (hp : p.apply e = some (q, seen)) (hheld : 0 < p.handles)
    (hrelease : e = .release → 1 < p.handles) : 0 < q.handles := by
  have hcount : [e].count .release < p.handles := by
    by_cases he : e = .release
    · rw [he, List.count_singleton_self]
      exact hrelease he
    · rw [List.count_singleton, beq_false_of_ne he]
      exact hheld
  have hrest : ([] : List Polling.Event).count .release < q.handles :=
    Polling.System.held_of_apply hcount hp
  exact hrest

/-- The handles of the watch on its poller outlast what happens beside its tasks. -/
theorem Beside.held {s t : System} {e : Event} {effects : List Effect}
    (h : s.Beside e t effects) (he : s.secluded e = true) (hs : 0 < s.polling.handles) :
    0 < t.polling.handles := by
  rcases h.polling with ⟨_, heq⟩ | ⟨pe, seen, hpe, hp⟩
  · exact heq ▸ hs
  · refine held_of_apply hp hs ?_
    rintro rfl
    have hrule := (Bool.and_eq_true_iff.mp he).2
    cases e with
    | poller | dropHandle =>
        cases Option.some.inj hpe
        exact of_decide_eq_true hrule
    | set | boot | launch | check | fetch | spawnLoop | step | halt | deliver | drop
    | askToEnd | shutdown | retainStatus | releaseStatus => exact absurd hpe nofun

/-- A watch that is launched, has told the client what the check at boot found, and holds its
poller. -/
structure Secluded (seen : List Effect) (s : System) : Prop extends s.Booting where
  tells : ∀ {phase}, s.Boots phase → phase.Tells s.cell.value (seen.count .reset)
  held : ∀ {phase}, s.Boots phase → 0 < s.polling.handles

theorem held_of_bootStep {s : System} {id : Nat} {before phase : Boot} {p : Polling.System}
    {c : Cell} {effects : List Effect} (h : Boot.Step s id before p c phase effects)
    (hheld : 0 < s.polling.handles) : 0 < p.handles := by
  cases h with
  | start hp | stop hp => exact held_of_apply hp hheld nofun
  | ask | failed | unrecognised | reported | started | reset => exact hheld

theorem Secluded.apply {seen effects : List Effect} {s t : System} {e : Event}
    (hs : Secluded seen s) (he : s.secluded e = true) (h : s.apply e = some (t, effects)) :
    Secluded (seen ++ effects) t := by
  have hunaided := unaided_of_secluded he
  have hcomes : ∀ {phase}, t.Boots phase → s.Launches e t effects phase := fun hboots =>
    boots_of_act hs.toManned (admits_of_unaided hunaided) (act_of_apply h) hboots
  refine ⟨hs.toBooting.apply hunaided h, fun {phase} hboots => ?_, fun {phase} hboots => ?_⟩
  · rw [List.count_append]
    cases hcomes hboots with
    | steps hbefore hstep => exact (hs.tells hbefore).step (hs.holds hbefore) hstep
    | stays hbefore hbeside hvalue =>
        have hsame : t.cell.value = s.cell.value :=
          hvalue.resolve_left fun ⟨v, hset⟩ => not_set_of_secluded hs.toManned hbefore he v hset
        rw [hsame, List.count_eq_zero.mpr hbeside.reset]
        exact hs.tells hbefore
    | answered hbefore _ hcell heffects =>
        have hwaiting : s.cell.value = .uninstall ∧ seen.count .reset = 0 := hs.tells hbefore
        rw [hcell, heffects]
        exact hwaiting
  · cases hcomes hboots with
    | steps hbefore hstep => exact held_of_bootStep hstep (hs.held hbefore)
    | stays hbefore hbeside => exact hbeside.held he (hs.held hbefore)
    | answered hbefore hpolling =>
        rw [hpolling]
        exact hs.held hbefore

theorem secluded_build (hint : String) (options : Polling.Options) (settings : Install.Settings) :
    Secluded [] (build hint options settings .uninstall) := by
  refine ⟨booting_build hint options settings .uninstall, ?_, ?_⟩
  · obtain ⟨p, seen, hp, heq⟩ := build_eq hint options settings .uninstall
    rw [heq]
    rintro phase (htask | ⟨_, rfl⟩)
    · exact absurd htask nofun
    · exact ⟨rfl, rfl⟩
  · obtain ⟨p, seen, hp, heq⟩ := build_eq hint options settings .uninstall
    rw [heq]
    exact fun _ => held_of_apply hp Nat.one_pos nofun

theorem held_of_observerStep {s : System} {sub sub' : Subscription} {before phase : Observer}
    {p : Polling.System} {effects : List Effect}
    (h : Observer.Step s sub before p sub' phase effects) (hgoes : phase ≠ .ended)
    (hheld : before ≠ .ended → 0 < s.polling.handles) : 0 < p.handles := by
  cases h with
  | start hp | stop hp => exact held_of_apply hp (hheld nofun) nofun
  | close => exact absurd rfl hgoes
  | look | started | reset => exact hheld nofun

/-- A watch whose launch is over and whose observer, unless it has ended, holds the poller. -/
structure Guarded (s : System) : Prop extends s.Settled where
  held : ∀ {sub phase}, s.duty? 1 = some (sub, phase) → phase ≠ .ended → 0 < s.polling.handles

theorem Guarded.apply {s t : System} {e : Event} {effects : List Effect} (hs : s.Guarded)
    (he : s.secluded e = true) (h : s.apply e = some (t, effects)) : t.Guarded := by
  have hadmits := admits_of_unaided (unaided_of_secluded he)
  refine ⟨hs.toSettled.apply hadmits h, fun {sub phase} hduty hgoes => ?_⟩
  cases hs.tends hadmits h hduty with
  | steps hbefore hstep => exact held_of_observerStep hstep hgoes (hs.held hbefore)
  | stays hbefore hbeside => exact hbeside.held he (hs.held hbefore hgoes)

end System

theorem System.admits_of_secluded {s : System} {e : Event} (h : s.secluded e = true) :
    s.admits e = true := admits_of_unaided (unaided_of_secluded h)

namespace Course

variable {hint : String} {options : Polling.Options} {settings : Install.Settings}
  (c : Course System.secluded (.build hint options settings .uninstall))

theorem secluded_ended : System.Secluded c.before c.ended :=
  System.heeding_induction (P := System.Secluded) (fun hs he happly => hs.apply he happly) []
    (System.secluded_build hint options settings) c.heeds_first c.run_first

theorem guarded : c.last.Guarded := by
  have hopening := c.opens System.unaided_of_secluded
  have hheld : 0 < c.returned.polling.handles := by
    obtain ⟨seen, hp⟩ := hopening.polling
    have hboots := c.boots_at_return System.unaided_of_secluded
    exact System.held_of_apply hp (c.secluded_ended.held hboots) nofun
  exact System.heeding_induction (P := fun _ s => s.Guarded)
    (fun hs he happly => hs.apply he happly) [] ⟨hopening.settled, fun _ _ => hheld⟩ c.heeds_rest
    c.run_rest

/-- The status is what the check at boot has acted on when the launch returns. -/
theorem followed : c.Followed := by
  have hboots := c.boots_at_return System.unaided_of_secluded
  have htells : c.ended.cell.value = c.result.getD .uninstall ∧ _ := c.secluded_ended.tells hboots
  rw [Followed, (c.opens System.unaided_of_secluded).cell]
  exact Or.inr htells.1

/-- The client is reset once per transition to uninstalled at most, and once more if the check at
boot found it uninstalled. -/
theorem resets_le (hidle : c.last.isIdle c.observer = true) :
    (c.before ++ c.told ++ c.since).count .reset ≤
      (transitions c.since).count .uninstall + if c.result = some .uninstall then 1 else 0 := by
  have hnew := System.manned_build hint options settings .uninstall
  have hboots := c.boots_at_return System.unaided_of_secluded
  have htells : _ ∧ c.before.count .reset = if c.result = some .uninstall then 1 else 0 :=
    c.secluded_ended.tells hboots
  have htold : c.told.count .reset = 0 :=
    List.count_eq_zero.mpr (c.opens System.unaided_of_secluded).reset
  have hsince := c.resets_of_idle System.admits_of_secluded hnew hidle
  rw [List.count_append, List.count_append, htells.2, htold]
  omega

/-- A watch whose status starts as uninstalled and is set by nobody else before the launch has
returned, and whose poller nobody else starts or stops, follows the status: wherever the observer is
idle, the poller runs exactly if the client counts as installed, a running poller has its timer, and
a stopped one has forgotten all alarms.  The client has then been reset once per transition to
uninstalled since the return at most, and once more if the check at boot found it uninstalled. -/
theorem follows_status (hidle : c.last.isIdle c.observer = true) :
    (c.last.polling.state.running = true ↔ c.last.cell.value = .install) ∧
      (c.last.polling.state.running = true → c.last.polling.HasTimer) ∧
      (c.last.polling.state.running = false → c.last.polling.state.seen = .empty) ∧
      (c.before ++ c.told ++ c.since).count .reset ≤
        (transitions c.since).count .uninstall + if c.result = some .uninstall then 1 else 0 := by
  obtain ⟨hnone, hrun⟩ := c.running_iff System.unaided_of_secluded hidle
  have hguarded := c.guarded
  refine ⟨?_, fun hrunning => ?_, fun hstopped => ?_, c.resets_le hidle⟩
  · rw [hrun]
    exact c.goal_eq_install_iff.mpr c.followed
  · obtain ⟨sub, hduty, _⟩ := System.isIdle_iff.mp hidle
    rw [(c.opens System.unaided_of_secluded).observer_eq] at hduty
    have halive : c.last.polling.isAlive = true :=
      Polling.System.isAlive_eq_true_iff.mpr (Or.inl (hguarded.held hduty nofun))
    exact hnone.hasTimer hguarded.reachable halive hrunning
  · exact ((Polling.System.sound_of_reachable hguarded.reachable).stopped hstopped).1

/-- The loop reports the client as installed. -/
def installed : Course System.secluded (.build "" .none .standard .uninstall) :=
  afterFailedBoot .uninstall (beginStart ++ endStart) rfl (by decide)

theorem follows_status_of_installed :
    installed.last.polling.state.running = true ∧ installed.last.polling.HasTimer ∧
      (installed.before ++ installed.told ++ installed.since).count .reset = 0 := by
  obtain ⟨hrunning, htimer, _, hresets⟩ := follows_status installed rfl
  have hrun : installed.last.polling.state.running = true := hrunning.mpr rfl
  exact ⟨hrun, htimer hrun, Nat.le_zero.mp hresets⟩

end Course

end AlarmMonitor.Watch
