import AlarmMonitor.Proofs.Watch.Service

/-!
# Resets and uninstalls

An observer that has seen the status change to uninstalled owes a stop of the poller and a reset
of the client.  It pays every uninstall that it sees; one that is overtaken by an install before
the observer looks is never seen.

* `Observer.owed`, `debt`: the resets to come;
* `resets_of_apply`, `resets_of_run`: resets, debts and overtaken uninstalls balance the
  transitions to uninstalled, for one transition of the watch and for a run;
* `Course.resets_add_overtaken`: the balance where the observer is idle.
-/

set_option autoImplicit false

namespace AlarmMonitor.Watch

open AlarmMonitor.Install (Status Cell Subscription)

/-- The resets to come for what the observer has seen. -/
def Observer.owed : Observer → Nat
  | .acting .uninstall | .stopped => 1
  | _ => 0

/-- Is the status uninstalled by a transition that the subscriber has not seen? -/
def unseenUninstall (c : Cell) (sub : Subscription) : Bool :=
  sub.seen != c.version && c.value == .uninstall

/-- The resets to come for what the observer has seen and would see now. -/
def debt (c : Cell) (sub : Subscription) (phase : Observer) : Nat :=
  phase.owed + (unseenUninstall c sub).toNat

namespace System

/-- Does an install overtake an uninstall that the observer has not seen? -/
def overtakes (s : System) (observer : Nat) (effects : List Effect) : Bool :=
  (s.duty? observer).any (fun d => unseenUninstall s.cell d.1) &&
    (transitions effects).contains .install

/-- The number of uninstalls in a run that were overtaken before the observer saw them. -/
def overtaken (s : System) (observer : Nat) : List Event → Nat
  | [] => 0
  | e :: rest =>
    match s.apply e with
    | some (t, effects) => (s.overtakes observer effects).toNat + t.overtaken observer rest
    | none => 0

end System

theorem count_reset_map_poller (seen : List Polling.Effect) :
    (seen.map Effect.poller).count .reset = 0 :=
  List.count_eq_zero.mpr (plain_map_poller seen).2

/-- A change of the status pays nothing: it makes a debt, or an install overtakes one. -/
theorem Turn.debt {c next : Cell} {effects : List Effect} (h : Turn c next effects)
    {sub : Subscription} (hle : sub.seen ≤ c.version) (phase : Observer) :
    debt next sub phase +
        (unseenUninstall c sub && (transitions effects).contains .install).toNat =
      (transitions effects).count .uninstall + debt c sub phase := by
  cases h with
  | still hvalue hversion hseen =>
      simp only [hseen, Watch.debt, unseenUninstall, hvalue, hversion, List.contains_nil,
        Bool.and_false, Bool.toNat_false, List.count_nil, Nat.add_zero, Nat.zero_add]
  | flip hvalue hversion hseen =>
      have hnew : (sub.seen != next.version) = true := by
        rw [hversion, bne_iff_ne]
        omega
      -- the two values differ, so there are two cases
      cases hbefore : c.value with
      | install =>
          have hnext : next.value = .uninstall := by
            cases hnext : next.value with
            | install => exact absurd (hnext.trans hbefore.symm) hvalue
            | uninstall => rfl
          simp [hseen, Watch.debt, unseenUninstall, hnew, hbefore, hnext, Nat.add_comm]
      | uninstall =>
          have hnext : next.value = .install := by
            cases hnext : next.value with
            | install => rfl
            | uninstall => exact absurd (hnext.trans hbefore.symm) hvalue
          simp [hseen, Watch.debt, unseenUninstall, hnew, hbefore, hnext]

/-- A piece of the observer pays a debt by a reset, or passes it on. -/
theorem Observer.Step.debt {s : System} {sub sub' : Subscription} {before phase : Observer}
    {p : Polling.System} {effects : List Effect}
    (h : Observer.Step s sub before p sub' phase effects) :
    transitions effects = [] ∧
      effects.count .reset + debt s.cell sub' phase = debt s.cell sub before := by
  cases h with
  | look hnew =>
      have hbne : (sub.seen != s.cell.version) = true := bne_iff_ne.mpr (Ne.symm hnew)
      refine ⟨rfl, ?_⟩
      cases hvalue : s.cell.value with
      | install =>
          have hne : (Status.install == Status.uninstall) = false := rfl
          simp [Watch.debt, unseenUninstall, Observer.owed, hvalue, hne]
      | uninstall => simp [Watch.debt, unseenUninstall, Observer.owed, hvalue, hbne]
  | @close p seen | @start p seen | @stop p seen =>
      refine ⟨(plain_map_poller seen).1, ?_⟩
      rw [count_reset_map_poller]
      exact Nat.zero_add _
  | started => exact ⟨rfl, Nat.zero_add _⟩
  | reset =>
      refine ⟨rfl, ?_⟩
      simp only [Watch.debt, Observer.owed, List.count_singleton_self, ← Nat.add_assoc,
        Nat.add_zero]

namespace System

/-- One transition of the watch keeps the balance. -/
theorem resets_of_apply {s t : System} {e : Event} {effects : List Effect} {sub : Subscription}
    {phase : Observer} (hs : s.Settled) (he : s.admits e = true)
    (h : s.apply e = some (t, effects)) (hduty : t.duty? 1 = some (sub, phase)) :
    ∃ sub' before, s.duty? 1 = some (sub', before) ∧
      effects.count .reset + debt t.cell sub phase + (s.overtakes 1 effects).toNat =
        (transitions effects).count .uninstall + debt s.cell sub' before := by
  cases hs.tends he h hduty with
  | @steps sub' _ before _ hbefore hstep hcell =>
      obtain ⟨hsame, hpaid⟩ := hstep.debt
      refine ⟨sub', before, hbefore, ?_⟩
      rw [hcell, hpaid, overtakes, hsame]
      simp only [List.contains_nil, Bool.and_false, Bool.toNat_false, List.count_nil,
        Nat.add_zero, Nat.zero_add]
  | stays hbefore hbeside =>
      refine ⟨sub, phase, hbefore, ?_⟩
      have hle := hs.seen_le (task?_eq_some_iff.mpr ⟨_, duty?_eq_some_iff.mp hbefore, rfl⟩)
      rw [List.count_eq_zero.mpr hbeside.reset, Nat.zero_add, overtakes, hbefore,
        Option.any_some]
      exact hbeside.turn.debt hle phase

variable {rule : System → Event → Bool}

/-- A run of the watch keeps the balance. -/
theorem resets_of_run (hrule : ∀ {s e}, rule s e = true → s.admits e = true) {s t : System}
    {events : List Event} {effects : List Effect} {sub : Subscription} {phase : Observer}
    (hs : s.Settled) (hheeds : s.heeds rule events = true)
    (hrun : s.run events = some (t, effects)) (hduty : t.duty? 1 = some (sub, phase)) :
    ∃ sub' before, s.duty? 1 = some (sub', before) ∧
      effects.count .reset + debt t.cell sub phase + s.overtaken 1 events =
        (transitions effects).count .uninstall + debt s.cell sub' before := by
  induction events generalizing s effects with
  | nil =>
      cases hrun
      exact ⟨sub, phase, hduty, by
        simp only [List.count_nil, overtaken, transitions, List.filterMap_nil, Nat.add_zero]⟩
  | cons e rest ih =>
      obtain ⟨u, first, later, happly, hrest, rfl⟩ := run_cons_eq_some_iff.mp hrun
      obtain ⟨hadmits, hlater⟩ := (heeds_cons happly).mp hheeds
      obtain ⟨sub', middle, hmiddle, hbalance⟩ :=
        ih (hs.apply (hrule hadmits) happly) hlater hrest
      obtain ⟨sub'', before, hbefore, hfirst⟩ :=
        resets_of_apply hs (hrule hadmits) happly hmiddle
      refine ⟨sub'', before, hbefore, ?_⟩
      simp only [overtaken, happly, List.count_append, transitions_append]
      omega

end System

namespace Course

variable {rule : System → Event → Bool} {new : System}

/-- Where the observer is idle, every uninstall since the return was followed by a reset or was
overtaken. -/
theorem resets_of_idle (c : Course rule new)
    (hrule : ∀ {s e}, rule s e = true → s.admits e = true) (hnew : new.Manned)
    (hidle : c.last.isIdle c.observer = true) :
    c.since.count .reset + c.returned.overtaken c.observer c.rest =
      (transitions c.since).count .uninstall := by
  have hopening := c.opening hrule hnew
  have hopen := hopening.duty
  obtain ⟨sub, hduty, hseen⟩ := System.isIdle_iff.mp hidle
  rw [hopening.observer_eq] at hduty hopen ⊢
  obtain ⟨sub', before, hbefore, hbalance⟩ :=
    System.resets_of_run hrule hopening.settled c.heeds_rest c.run_rest hduty
  rw [hopen] at hbefore
  cases hbefore
  have hlast : debt c.last.cell sub .watching = 0 := by
    simp [debt, Observer.owed, unseenUninstall, hseen]
  have hfirst : debt c.returned.cell ⟨c.returned.cell.version⟩ .watching = 0 := by
    simp [debt, Observer.owed, unseenUninstall]
  rw [hlast, hfirst] at hbalance
  exact hbalance

/-- Wherever the observer is idle, the resets since the launch returned and the uninstalls that
were overtaken by an install before it looked make up the transitions to uninstalled; and wherever
it is about to reset the client, the poller is stopped and has forgotten all alarms. -/
theorem resets_add_overtaken {hint : String} {options : Polling.Options}
    {settings : Install.Settings} {initial : Status}
    (c : Course System.unaided (.build hint options settings initial)) :
    (c.last.isIdle c.observer = true →
      c.since.count .reset + c.returned.overtaken c.observer c.rest =
        (transitions c.since).count .uninstall) ∧
    ∀ sub, c.last.duty? c.observer = some (sub, .stopped) →
      c.last.polling.state.running = false ∧ c.last.polling.state.seen = .empty := by
  have hnew := System.manned_build hint options settings initial
  refine ⟨c.resets_of_idle System.admits_of_unaided hnew, fun sub hduty => ?_⟩
  have hstopped := (c.rests_of_stopped id hduty).2
  have hreach := (c.settled System.admits_of_unaided hnew).reachable
  exact ⟨hstopped, ((Polling.System.sound_of_reachable hreach).stopped hstopped).1⟩

/-- The observer sees a transition to installed and begins to start the poller. -/
def beginStart : List Event :=
  .step 2 :: report .install ++ [.step 1, .step 1, .poller (.step 0), .poller (.step 0)]

/-- The first request of the poller fails, and the start of the observer is over. -/
def endStart : List Event :=
  [.poller (.deliver 0 (.failure "down")), .poller (.step 0), .poller (.step 0), .poller (.step 0),
    .poller (.step 0), .step 1]

/-- Before the first request of the poller fails, the backend reports the client as uninstalled and
as installed again. -/
def overtaking : Course System.unaided (.build "" .none .standard .uninstall) :=
  afterFailedBoot .uninstall
    (beginStart ++ report .uninstall ++ report .install ++ endStart ++
      [.step 1, .step 1, .poller (.step 2), .step 1])
    rfl (by decide)

/-- An uninstall that is overtaken resets nothing. -/
theorem uninstall_without_reset :
    overtaking.last.isIdle overtaking.observer = true ∧
      (transitions overtaking.since).count .uninstall = 1 ∧
      overtaking.since.count .reset = 0 := ⟨rfl, rfl, rfl⟩

/-- The backend reports the client as uninstalled once the poller has started, and the observer has
stopped the poller. -/
def keepingUp : Course System.unaided (.build "" .none .standard .uninstall) :=
  afterFailedBoot .uninstall (beginStart ++ endStart ++ report .uninstall ++ [.step 1, .step 1])
    rfl (by decide)

theorem resets_add_overtaken_of_overtaking :
    overtaking.since.count .reset +
        overtaking.returned.overtaken overtaking.observer overtaking.rest =
      (transitions overtaking.since).count .uninstall ∧
    keepingUp.last.polling.state.running = false :=
  ⟨(resets_add_overtaken overtaking).1 rfl, ((resets_add_overtaken keepingUp).2 ⟨2⟩ rfl).1⟩

end Course

end AlarmMonitor.Watch
