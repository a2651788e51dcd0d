import AlarmMonitor.Proofs.Polling.Ledger

/-!
# The history of the configuration

Options reach the configuration by a call of `configure` and by a start that takes effect, and in no
other way.

* `Config.merge_fields`, `Config.changed_merge_iff`: what a merge does, and when it says that it did
  something;
* `Config.mergeAll_fields`: many merges leave the last endpoint that was given, and the last
  interval that is not below the floor;
* `System.merged`: the options that a run merges, in order;
* `System.config_of_apply`: a transition changes the configuration by what it merges;
* `System.config_folds_merged`: the configuration behind a run, and what comes of it.
-/

set_option autoImplicit false

namespace AlarmMonitor.Polling

/-- The interval that is taken over from options: none below the floor. -/
def Options.usable (o : Options) : Option Duration :=
  o.interval.filter fun i => decide (minInterval ≤ i)

namespace Config

/-! ## One merge -/

theorem mergeEndpoint_fields (c : Config) (e : Option String) :
    (c.mergeEndpoint e).1.endpoint = e.getD c.endpoint ∧
      (c.mergeEndpoint e).1.interval = c.interval := by
  cases e with
  | none => exact ⟨rfl, rfl⟩
  | some e =>
      simp only [mergeEndpoint, Option.getD_some]
      split
      · rename_i hsame
        exact ⟨hsame.symm, rfl⟩
      · exact ⟨rfl, rfl⟩

theorem mergeInterval_fields (c : Config) (i : Option Duration) :
    (c.mergeInterval i).config.endpoint = c.endpoint ∧
      (c.mergeInterval i).config.interval =
        (i.filter fun i => decide (minInterval ≤ i)).getD c.interval := by
  cases i with
  | none => exact ⟨rfl, rfl⟩
  | some i =>
      simp only [mergeInterval]
      split
      · rename_i hlow
        have hnot : ¬ decide (minInterval ≤ i) = true := fun h =>
          absurd hlow (Nat.not_lt_of_le (of_decide_eq_true h))
        rw [Option.filter_some, if_neg hnot]
        exact ⟨rfl, rfl⟩
      · rename_i hfloor
        have hle : decide (minInterval ≤ i) = true := decide_eq_true (Nat.le_of_not_lt hfloor)
        rw [Option.filter_some, if_pos hle]
        split
        · rename_i hsame
          exact ⟨rfl, hsame.symm⟩
        · exact ⟨rfl, rfl⟩

/-- A merge takes over the endpoint that is given, and the interval that is given unless it is below
the floor. -/
theorem merge_fields (c : Config) (o : Options) :
    (c.merge o).config.endpoint = o.endpoint.getD c.endpoint ∧
      (c.merge o).config.interval = o.usable.getD c.interval := by
  have hmerged : (c.merge o).config =
      ((c.mergeEndpoint o.endpoint).1.mergeInterval o.interval).config := rfl
  obtain ⟨hendpoint, hinterval⟩ := c.mergeEndpoint_fields o.endpoint
  obtain ⟨hkept, htaken⟩ := (c.mergeEndpoint o.endpoint).1.mergeInterval_fields o.interval
  rw [hmerged, hkept, htaken, hendpoint, hinterval]
  exact ⟨rfl, rfl⟩

theorem changed_mergeEndpoint_iff (c : Config) (e : Option String) :
    (c.mergeEndpoint e).2 = true ↔ (c.mergeEndpoint e).1.endpoint ≠ c.endpoint := by
  cases e with
  | none => exact ⟨nofun, fun h => absurd rfl h⟩
  | some e =>
      simp only [mergeEndpoint]
      split
      · exact ⟨nofun, fun h => absurd rfl h⟩
      · rename_i hother
        exact ⟨fun _ => hother, fun _ => rfl⟩

theorem changed_mergeInterval_iff (c : Config) (i : Option Duration) :
    (c.mergeInterval i).changed = true ↔ (c.mergeInterval i).config.interval ≠ c.interval := by
  cases i with
  | none => exact ⟨nofun, fun h => absurd rfl h⟩
  | some i =>
      simp only [mergeInterval]
      split
      · exact ⟨nofun, fun h => absurd rfl h⟩
      · split
        · exact ⟨nofun, fun h => absurd rfl h⟩
        · rename_i hother
          exact ⟨fun _ => hother, fun _ => rfl⟩

/-- A merge says that it changed something exactly if it did. -/
theorem changed_merge_iff (c : Config) (o : Options) :
    (c.merge o).changed = true ↔ (c.merge o).config ≠ c := by
  have hchanged : (c.merge o).changed = ((c.mergeEndpoint o.endpoint).2 ||
      ((c.mergeEndpoint o.endpoint).1.mergeInterval o.interval).changed) := rfl
  have hmerged : (c.merge o).config =
      ((c.mergeEndpoint o.endpoint).1.mergeInterval o.interval).config := rfl
  have hendpoint : (c.merge o).config.endpoint = (c.mergeEndpoint o.endpoint).1.endpoint := by
    rw [hmerged]
    exact (mergeInterval_fields _ _).1
  have hinterval := (c.mergeEndpoint_fields o.endpoint).2
  have hsame : (c.merge o).config = c ↔
      (c.merge o).config.endpoint = c.endpoint ∧ (c.merge o).config.interval = c.interval := by
    constructor
    · intro h
      exact ⟨congrArg endpoint h, congrArg interval h⟩
    · intro h
      exact congr (congrArg Config.mk h.1) h.2
  rw [hchanged, Bool.or_eq_true, changed_mergeEndpoint_iff, changed_mergeInterval_iff, hinterval,
    ← hmerged, ← hendpoint]
  exact Decidable.not_and_iff_not_or_not.symm.trans (not_congr hsame).symm

/-! ## Many merges -/

/-- The configuration behind merging options one after the other. -/
def mergeAll (c : Config) (os : List Options) : Config :=
  os.foldl (fun c o => (c.merge o).config) c

/-- The last endpoint that was given stays, and the last interval that is not below the floor. -/
theorem mergeAll_fields (c : Config) (os : List Options) :
    (c.mergeAll os).endpoint = (os.filterMap (·.endpoint)).getLast?.getD c.endpoint ∧
      (c.mergeAll os).interval = (os.filterMap (·.usable)).getLast?.getD c.interval := by
  have hlast : ∀ {α : Type} (given : Option α) (later : List α) (old : α),
      later.getLast?.getD (given.getD old) =
        (given.toList ++ later).getLast?.getD old := by
    intro α given later old
    cases given with
    | none => rfl
    | some x => rw [Option.toList_some, List.singleton_append, List.getLast?_cons]; rfl
  induction os generalizing c with
  | nil => exact ⟨rfl, rfl⟩
  | cons o os ih =>
      obtain ⟨hendpoint, hinterval⟩ := ih (c.merge o).config
      obtain ⟨hfirst, hsecond⟩ := c.merge_fields o
      have hcons : ∀ {α : Type} (f : Options → Option α),
          (o :: os).filterMap f = (f o).toList ++ os.filterMap f := by
        intro α f
        cases hf : f o with
        | none => rw [List.filterMap_cons_none hf]; rfl
        | some x => rw [List.filterMap_cons_some hf]; rfl
      have hall : c.mergeAll (o :: os) = (c.merge o).config.mergeAll os := rfl
      rw [hall, hendpoint, hinterval, hfirst, hsecond, hlast, hlast, hcons, hcons]
      exact ⟨rfl, rfl⟩

end Config

/-! ## What is merged -/

/-- The options that the next piece of a task merges: those of a start that takes effect. -/
def Task.merges (s : State) : Task → List Options
  | .start (.entering options) => if s.running then [] else [options]
  | _ => []

/-- A task inside of a cycle merges nothing. -/
theorem Owner.merges_task (owner : Owner) (cycle : Cycle) (s : State) :
    (owner.task cycle).merges s = [] := by
  cases owner <;> rfl

/-- A deed changes the configuration by what it merges. -/
theorem Deed.config {c : Context} {s : State} {t : Task} {p : Piece} (h : Deed c s t p) :
    p.state.config = s.config.mergeAll (t.merges s) := by
  cases h with
  | refuse hrun =>
      rw [Task.merges, hrun]
      rfl
  | enter hstop =>
      rw [Task.merges, hstop]
      rfl
  | cycle ht hstep =>
      rw [ht, Owner.merges_task]
      rcases hstep.asks_or_silent with ⟨_, _, _, _, hstate, _⟩ | ⟨_, hstate⟩
      · rw [hstate]
        rfl
      · rw [hstate]
        rfl
  | undo hphase | release hphase => cases hphase <;> rfl
  | firstOver | arm | pass | lieDown | retire | wake | scheduledOver => rfl

/-- Where options of a start are merged, and only there, the start is seen to take effect. -/
theorem Deed.started_iff {c : Context} {s : State} {t : Task} {p : Piece} (h : Deed c s t p) :
    .start ∈ Effect.kinds p.effects ↔ t.merges s ≠ [] := by
  have hneither : ∀ {ks : List Effect.Kind} {os : List Options}, .start ∉ ks → os = [] →
      (.start ∈ ks ↔ os ≠ []) := fun hks hos => ⟨fun h => absurd h hks, fun h => absurd hos h⟩
  cases h with
  | refuse hrun => exact hneither nofun (by rw [Task.merges, hrun]; rfl)
  | enter hstop =>
      rw [State.kinds_of_start, Task.merges, hstop]
      exact ⟨fun _ => nofun, fun _ => List.mem_cons_self⟩
  | cycle ht hstep =>
      rw [ht]
      refine hneither ?_ (Owner.merges_task _ _ s)
      rcases hstep.asks_or_silent with ⟨_, _, _, _, _, rfl⟩ | ⟨hother, _⟩
      · exact nofun
      · rw [Effect.kinds_of_other hother]
        exact nofun
  | undo hphase | release hphase => cases hphase <;> exact hneither nofun rfl
  | firstOver | arm | pass | lieDown | retire | wake | scheduledOver => exact hneither nofun rfl

/-- A request goes to the endpoint that is configured where it begins. -/
theorem Deed.endpoint_of_request {c : Context} {s : State} {t : Task} {p : Piece} {place : Nat}
    {endpoint : String} (h : Deed c s t p) (hrequest : .request place endpoint ∈ p.effects) :
    endpoint = s.config.endpoint := by
  have hkind : Effect.Kind.request ∈ Effect.kinds p.effects :=
    Effect.kind_mem_kinds hrequest nofun
  cases h with
  | cycle _ hstep =>
      rcases hstep.asks_or_silent with ⟨_, _, _, _, _, rfl⟩ | ⟨hother, _⟩
      · cases List.mem_singleton.mp hrequest
        rfl
      · exact absurd (hother _ hrequest) nofun
  | enter =>
      rw [State.kinds_of_start] at hkind
      exact absurd (List.mem_singleton.mp hkind) nofun
  | refuse | firstOver | arm | pass | undo | release | lieDown | retire | wake | scheduledOver =>
      exact absurd hkind nofun

namespace System

/-- The options that a transition merges: those of a call of `configure`, and those of a start that
takes effect. -/
def merges (s : System) : Event → List Options
  | .configure options => [options]
  | .step id =>
    match s.task? id with
    | some t => t.merges s.state
    | none => []
  | _ => []

/-- The options that a run merges, in order. -/
def merged (s : System) (events : List Event) : List Options :=
  s.record (fun s e _ _ => s.merges e) events

/-- A transition changes the configuration by what it merges. -/
theorem config_of_apply {s t : System} {e : Event} {told : List Effect}
    (h : s.apply e = some (t, told)) :
    t.state.config = s.state.config.mergeAll (s.merges e) := by
  obtain ⟨u, hact, rfl⟩ := apply_eq_some_iff.mp h
  rw [config_reap]
  cases act_eq_some_iff.mp hact with
  | step hslot _ hp =>
      simp only [merges, task?_eq_some_iff.mpr ⟨_, hslot, rfl⟩]
      exact (Task.deed_of_piece hp).config
  | stop =>
      rw [state_stop]
      rfl
  | start | poll | deliver | abort | drop | configure | clearHistory | tick | retain | release =>
      rfl

/-- Merging on, from what a run has merged so far. -/
theorem config_of_run {s t : System} {events : List Event} {effects : List Effect}
    (h : s.run events = some (t, effects)) :
    t.state.config = s.state.config.mergeAll (s.merged events) := by
  induction events generalizing s effects with
  | nil =>
      cases h
      rfl
  | cons e rest ih =>
      obtain ⟨u, first, later, happly, hrun, _⟩ := run_cons_eq_some_iff.mp h
      have hall : s.merged (e :: rest) = s.merges e ++ u.merged rest := record_cons happly rest
      rw [ih hrun, config_of_apply happly, hall]
      exact (List.foldl_append).symm

/-- A start is seen to take effect where its options are merged. -/
theorem started_iff {s t : System} {e : Event} {told : List Effect}
    (h : s.apply e = some (t, told)) :
    .start ∈ Effect.kinds told ↔ ∃ call, e = .step call ∧ s.merges e ≠ [] := by
  obtain ⟨u, hact, rfl⟩ := apply_eq_some_iff.mp h
  have hnever : ∀ {ks : List Effect.Kind}, .start ∉ ks → (∀ call, e ≠ .step call) →
      (.start ∈ ks ↔ ∃ call, e = .step call ∧ s.merges e ≠ []) := fun hks he =>
    ⟨fun h => absurd h hks, fun ⟨call, hcall, _⟩ => absurd hcall (he call)⟩
  cases entered_of_act hact with
  | @step call slot p hslot hp _ =>
      rw [(Task.deed_of_piece hp).started_iff]
      simp only [merges, task?_eq_some_iff.mpr ⟨_, hslot, rfl⟩]
      exact ⟨fun hmerges => ⟨call, rfl, hmerges⟩, fun ⟨_, _, hmerges⟩ => hmerges⟩
  | stop _ _ hkinds =>
      refine hnever ?_ nofun
      rw [hkinds]
      split <;> exact nofun
  | quiet he _ _ hkinds =>
      refine hnever ?_ he
      rw [hkinds]
      exact nofun

/-- A call of `configure` answers whether it changed the configuration. -/
theorem configured_of_apply {s t : System} {options : Options} {told : List Effect}
    (h : s.apply (.configure options) = some (t, told)) :
    ∃ seen changed, told = seen ++ [.configured changed] ∧
      (changed = true ↔ t.state.config ≠ s.state.config) := by
  have hconfig := config_of_apply h
  obtain ⟨u, hact, rfl⟩ := apply_eq_some_iff.mp h
  cases act_eq_some_iff.mp hact with
  | configure =>
      refine ⟨_, _, rfl, ?_⟩
      rw [hconfig]
      exact s.state.config.changed_merge_iff options

/-- Every request goes to the endpoint that is configured where it begins. -/
theorem endpoint_of_request {s t : System} {e : Event} {told : List Effect} {place : Nat}
    {endpoint : String} (h : s.apply e = some (t, told))
    (hrequest : .request place endpoint ∈ told) : endpoint = s.state.config.endpoint := by
  obtain ⟨id, slot, p, rfl, _, hp, _, rfl⟩ := step_of_mem h hrequest ⟨nofun, nofun⟩
  exact (Task.deed_of_piece hp).endpoint_of_request hrequest

/-- In every run: the configuration is the standard one with the options merged, in order, of every
call of `configure` and of every start that took effect, so the last endpoint that was given and the
last interval that is not below the floor.  Nothing else changes it; a call of `configure` answers
whether it did; and every request goes to the endpoint that is configured where it begins. -/
theorem config_folds_merged {hint : String} {events : List Event} {s : System}
    {effects : List Effect} (hrun : (new hint).run events = some (s, effects)) :
    s.state.config = Config.standard.mergeAll ((new hint).merged events) ∧
    s.state.config.endpoint =
      (((new hint).merged events).filterMap (·.endpoint)).getLast?.getD defaultEndpoint ∧
    s.state.config.interval =
      (((new hint).merged events).filterMap (·.usable)).getLast?.getD defaultInterval ∧
    minInterval ≤ s.state.config.interval ∧
    ∀ e t told, s.apply e = some (t, told) →
      t.state.config = s.state.config.mergeAll (s.merges e) ∧
      (s.merges e = [] → t.state.config = s.state.config) ∧
      (.start ∈ Effect.kinds told ↔ ∃ call, e = .step call ∧ s.merges e ≠ []) ∧
      (∀ options, e = .configure options →
        ∃ seen changed, told = seen ++ [.configured changed] ∧
          (changed = true ↔ t.state.config ≠ s.state.config)) ∧
      (∀ place endpoint, .request place endpoint ∈ told → endpoint = s.state.config.endpoint) := by
  have hreach : Reachable s := ⟨hint, events, effects, hrun⟩
  have hfold : s.state.config = Config.standard.mergeAll ((new hint).merged events) :=
    config_of_run hrun
  obtain ⟨hendpoint, hinterval⟩ := Config.standard.mergeAll_fields ((new hint).merged events)
  refine ⟨hfold, ?_, ?_, (sound_of_reachable hreach).interval, ?_⟩
  · rw [hfold]
    exact hendpoint
  · rw [hfold]
    exact hinterval
  · intro e t told happly
    refine ⟨config_of_apply happly, fun hnone => ?_, started_iff happly, ?_, ?_⟩
    · rw [config_of_apply happly, hnone]
      rfl
    · rintro options rfl
      exact configured_of_apply happly
    · intro place endpoint hrequest
      exact endpoint_of_request happly hrequest

/-- An interval below the floor that comes with an endpoint, a start that takes effect, one that
does not, and a stop. -/
def reconfigured : List Event :=
  [.configure ⟨some "/alarms", some (.ofMillis 100)⟩, .start ⟨none, some (.ofMillis 900)⟩, .step 0,
    .start ⟨some "/other", none⟩, .step 1, .stop]

theorem config_folds_merged_of_reconfigured :
    ∃ s effects, (new "").run reconfigured = some (s, effects) ∧
      (new "").merged reconfigured =
        [⟨some "/alarms", some (.ofMillis 100)⟩, ⟨none, some (.ofMillis 900)⟩] ∧
      s.state.config.endpoint = "/alarms" ∧ s.state.config.interval = .ofMillis 900 := by
  have hrun : (new "").run reconfigured = some (_, _) := rfl
  have hmerged : (new "").merged reconfigured =
      [⟨some "/alarms", some (.ofMillis 100)⟩, ⟨none, some (.ofMillis 900)⟩] := rfl
  obtain ⟨_, hendpoint, hinterval, _⟩ := config_folds_merged hrun
  rw [hmerged] at hendpoint hinterval
  exact ⟨_, _, hrun, hmerged, hendpoint, hinterval⟩

end System

end AlarmMonitor.Polling
