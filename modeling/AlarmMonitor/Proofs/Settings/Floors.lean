import AlarmMonitor.CommandLine.Session
import AlarmMonitor.Proofs.Polling.Configuration
import AlarmMonitor.Proofs.Watch.Course
import Mathlib.Data.List.TakeWhile

/-!
# Floors of the settings and of the engine

Three places keep spans above a floor: an interval on the command line is ignored below it, the
settings are mended before they are used, and the poller and the checks of a watch have floors of
their own.

* `withOverrides_interval`, `validate_eq_ok`, `validate_eq_error_iff`: what the settings make of
  spans below their floors, and which settings are not usable;
* `config_watch`, `settings_watch`: what a watch makes of them;
* `floors_agree`: the three together.
-/

set_option autoImplicit false

namespace AlarmMonitor

theorem Duration.ofMillis_lt_ofMillis {a b : Nat} :
    Duration.ofMillis a < Duration.ofMillis b ↔ a < b := by
  have hnanos : Duration.ofMillis a < Duration.ofMillis b ↔ a * 1000000 < b * 1000000 := Iff.rfl
  rw [hnanos]
  omega

theorem Duration.ofMillis_le_ofMillis {a b : Nat} :
    Duration.ofMillis a ≤ Duration.ofMillis b ↔ a ≤ b := by
  have hnanos : Duration.ofMillis a ≤ Duration.ofMillis b ↔ a * 1000000 ≤ b * 1000000 := Iff.rfl
  rw [hnanos]
  omega

theorem Duration.millis_ofMillis (ms : Nat) : (Duration.ofMillis ms).millis = ms :=
  Nat.mul_div_cancel ms (by decide)

/-- Nothing remains of a text behind trimming exactly if it is blank. -/
theorem Text.trim_eq_nil_iff {s : String} :
    Text.trim s.toList = [] ↔ Text.isBlankText s = true := by
  unfold Text.trim Text.trimBy Text.isBlankText
  rw [List.reverse_eq_nil_iff, List.dropWhile_eq_nil_iff, List.all_eq_true]
  constructor
  · intro hrest
    have hfirst := List.head?_dropWhile_not Text.isBlank s.toList
    cases hdrop : s.toList.dropWhile Text.isBlank with
    | nil => exact List.dropWhile_eq_nil_iff.mp hdrop
    | cons c rest =>
        -- a character that is not dropped is not blank
        rw [hdrop] at hfirst hrest
        have hblank : Text.isBlank c = true := hrest c (List.mem_reverse.mpr List.mem_cons_self)
        exact absurd (hblank.symm.trans hfirst) nofun
  · intro hall c hc
    exact hall c ((List.dropWhile_sublist _).subset (List.mem_reverse.mp hc))

/-- A watch that is built has merged its options into the configuration of a new poller. -/
theorem Watch.System.config_build (hint : String) (options : Polling.Options)
    (settings : Install.Settings) (initial : Install.Status) :
    (Watch.System.build hint options settings initial).polling.state.config =
      ⟨options.endpoint.getD Polling.defaultEndpoint,
        options.usable.getD Polling.defaultInterval⟩ := by
  obtain ⟨p, seen, hp, hbuild⟩ := Watch.System.build_eq hint options settings initial
  obtain ⟨hendpoint, hinterval⟩ := Polling.Config.standard.merge_fields options
  have hmerged : p.state.config = (Polling.Config.standard.merge options).config :=
    Polling.System.config_of_apply hp
  rw [hbuild, hmerged]
  exact congr (congrArg Polling.Config.mk hendpoint) hinterval

namespace Settings

/-! ## Spans -/

/-- The interval in use: the default in place of one below the floor. -/
def usableInterval (interval : Nat) : Nat := if interval < 500 then 5000 else interval

/-- The period of checks in use: the floor in place of one below it. -/
def usablePeriod (period : Nat) : Nat := if period < 2000 then 2000 else period

theorem le_usableInterval (interval : Nat) : 500 ≤ usableInterval interval := by
  unfold usableInterval
  split <;> omega

theorem le_usablePeriod (period : Nat) : 2000 ≤ usablePeriod period := by
  unfold usablePeriod
  split <;> omega

/-- What is left of an interval where one below the floor does not count. -/
theorem filter_floor (interval : Nat) :
    ((some interval).filter fun v => decide (500 ≤ v)) =
      if interval < 500 then none else some interval := by
  rw [Option.filter_some]
  by_cases hlow : interval < 500
  · have hnot : ¬ decide (500 ≤ interval) = true := by simpa using hlow
    rw [if_neg hnot, if_pos hlow]
  · have hfloor : decide (500 ≤ interval) = true := decide_eq_true (Nat.le_of_not_lt hlow)
    rw [if_pos hfloor, if_neg hlow]

theorem usableInterval_of_le {interval : Nat} (h : 500 ≤ interval) :
    usableInterval interval = interval := if_neg (Nat.not_lt_of_le h)

theorem usablePeriod_of_le {period : Nat} (h : 2000 ≤ period) : usablePeriod period = period :=
  if_neg (Nat.not_lt_of_le h)

/-! ## The command line -/

/-- The interval on the command line that is not below the floor. -/
def Overrides.usable (o : Overrides) : Option Nat := o.interval.filter fun v => decide (500 ≤ v)

theorem withOverrides_interval (s : Settings) (o : Overrides) :
    (s.withOverrides o).1.interval = o.usable.getD s.interval := by
  have hfield : (s.withOverrides o).1.interval = (overrideInterval s.interval o.interval).1 := rfl
  rw [hfield, Overrides.usable]
  cases o.interval with
  | none => rfl
  | some v =>
      rw [filter_floor]
      simp only [overrideInterval, Polling.minInterval, Duration.ofMillis_lt_ofMillis]
      split
      · rfl
      · rfl

/-- The interval in use comes from the highest of the command line, the settings and the default
that gives one not below the floor. -/
theorem usableInterval_withOverrides (s : Settings) (o : Overrides) :
    usableInterval (s.withOverrides o).1.interval =
      (o.usable.or ((some s.interval).filter fun v => decide (500 ≤ v))).getD 5000 := by
  rw [withOverrides_interval]
  cases hgiven : o.usable with
  | some v =>
      have hfloor : 500 ≤ v := of_decide_eq_true (Option.filter_eq_some_iff.mp hgiven).2
      exact usableInterval_of_le hfloor
  | none =>
      rw [Option.none_or, Option.getD_none, filter_floor, usableInterval]
      split
      · rfl
      · rfl

/-! ## Validation -/

/-- The settings with usable spans. -/
def mended (s : Settings) : Settings :=
  { s with interval := usableInterval s.interval, syncInterval := usablePeriod s.syncInterval }

/-- What is said where the interval is replaced. -/
def intervalNotes (interval : Nat) : List Note :=
  if interval < 500 then [.intervalReplaced interval] else []

/-- What is said where the period is raised. -/
def periodNotes (period : Nat) : List Note :=
  if period < 2000 then [.syncIntervalRaised period] else []

theorem mendInterval_eq : mendInterval = fun s =>
    ({ s with interval := usableInterval s.interval }, intervalNotes s.interval) := by
  funext s
  simp only [mendInterval, Polling.minInterval, Polling.defaultInterval,
    Duration.ofMillis_lt_ofMillis, Duration.millis_ofMillis, usableInterval, intervalNotes]
  split
  · rfl
  · rfl

theorem mendSyncInterval_eq : mendSyncInterval = fun s =>
    ({ s with syncInterval := usablePeriod s.syncInterval }, periodNotes s.syncInterval) := by
  funext s
  simp only [mendSyncInterval, Install.minPeriod, Duration.ofMillis_lt_ofMillis,
    Duration.millis_ofMillis, usablePeriod, periodNotes]
  split
  · rfl
  · rfl

theorem defect_eq_none_iff {s : Settings} :
    s.defect = none ↔ ¬ (Text.isBlankText s.baseUrl = true ∨
      Text.isBlankText s.alarmEndpoint = true ∨ Text.isBlankText s.installEndpoint = true ∨
      s.timeout = 0) := by
  unfold defect
  by_cases hbase : Text.isBlankText s.baseUrl = true
  · simp [hbase]
  · by_cases halarm : Text.isBlankText s.alarmEndpoint = true
    · simp [hbase, halarm]
    · by_cases hinstall : Text.isBlankText s.installEndpoint = true
      · simp [hbase, halarm, hinstall]
      · by_cases htimeout : s.timeout = 0
        · simp [hbase, halarm, hinstall, htimeout]
        · simp [hbase, halarm, hinstall, htimeout]

theorem validate_of_defect {s : Settings} {d : Defect} (h : s.defect = some d) :
    s.validate = .error d := by
  unfold validate
  rw [h]

theorem validate_of_usable {s : Settings} (h : s.defect = none) :
    s.validate = .ok (s.mended, intervalNotes s.interval ++ periodNotes s.syncInterval) := by
  unfold validate
  -- the steps are rewritten as functions, for the second stands under the binder of the first
  rw [mendInterval_eq, mendSyncInterval_eq, h]
  rfl

theorem validate_eq_error_iff {s : Settings} :
    (∃ d, s.validate = .error d) ↔ s.defect ≠ none := by
  cases h : s.defect with
  | none => simp [validate_of_usable h]
  | some d => simp [validate_of_defect h]

theorem validate_eq_ok {s v : Settings} {notes : List Note} (h : s.validate = .ok (v, notes)) :
    s.defect = none ∧ v = s.mended := by
  cases hdefect : s.defect with
  | none =>
      rw [validate_of_usable hdefect, Except.ok.injEq, Prod.mk.injEq] at h
      exact ⟨rfl, h.1.symm⟩
  | some d =>
      rw [validate_of_defect hdefect] at h
      exact absurd h nofun

/-- Settings with usable spans are left as they are, and nothing is said about them. -/
theorem validate_mended {s : Settings} (h : s.defect = none) :
    s.mended.validate = .ok (s.mended, []) := by
  have hdefect : s.mended.defect = none := h
  have hmended : s.mended.mended = s.mended := by
    simp only [mended, usableInterval_of_le (le_usableInterval _),
      usablePeriod_of_le (le_usablePeriod _)]
  have hinterval : intervalNotes s.mended.interval = [] :=
    if_neg (Nat.not_lt_of_le (le_usableInterval s.interval))
  have hperiod : periodNotes s.mended.syncInterval = [] :=
    if_neg (Nat.not_lt_of_le (le_usablePeriod s.syncInterval))
  rw [validate_of_usable hdefect, hmended, hinterval, hperiod]
  rfl

/-! ## The watch -/

/-- The poller keeps its default in place of an interval below its floor. -/
theorem config_watch (s : Settings) :
    s.watch.polling.state.config =
      ⟨s.alarmEndpoint, .ofMillis (usableInterval s.interval)⟩ := by
  have hgiven : s.pollOptions.usable =
      ((some s.interval).filter fun v => decide (500 ≤ v)).map Duration.ofMillis := by
    simp only [Polling.Options.usable, pollOptions, Polling.minInterval, Option.filter_some,
      Duration.ofMillis_le_ofMillis]
    split
    · rfl
    · rfl
  have husable : s.pollOptions.usable.getD Polling.defaultInterval =
      .ofMillis (usableInterval s.interval) := by
    rw [hgiven, filter_floor, usableInterval]
    split
    · rfl
    · rfl
  rw [watch, Watch.System.config_build, husable]
  rfl

/-- The checks raise a period below their floor to it. -/
theorem settings_watch (s : Settings) :
    s.watch.settings = ⟨s.installEndpoint, .ofMillis (usablePeriod s.syncInterval)⟩ := by
  have hsettings : s.watch.settings =
      ⟨s.installEndpoint, (Duration.ofMillis s.syncInterval).max (.ofMillis 2000)⟩ := rfl
  simp only [hsettings, Duration.max, Duration.ofMillis_lt_ofMillis, usablePeriod]
  split
  · rfl
  · rfl

/-- The settings with an interval on the command line and usable spans agree with the engine: they
are refused exactly if a text that is needed is blank or requests have no time; otherwise only spans
below their floors are replaced, and validating them again changes nothing.  The watch that a
session builds from them has their endpoints and spans, and so has one built from the settings as
they were before. -/
theorem floors_agree (s : Settings) (o : Overrides) :
    let e := (s.withOverrides o).1
    ((∃ d, e.validate = .error d) ↔
      Text.trim e.baseUrl.toList = [] ∨ Text.trim e.alarmEndpoint.toList = [] ∨
        Text.trim e.installEndpoint.toList = [] ∨ e.timeout = 0) ∧
    ∀ v notes, e.validate = .ok (v, notes) →
      v = { e with
        interval := if e.interval < 500 then 5000 else e.interval
        syncInterval := if e.syncInterval < 2000 then 2000 else e.syncInterval } ∧
      v.interval = (o.usable.or ((some s.interval).filter fun i => decide (500 ≤ i))).getD 5000 ∧
      v.validate = .ok (v, []) ∧
      (∀ backend, (CommandLine.Session.scenario v backend).world.system = v.watch) ∧
      v.watch.polling.state.config = ⟨v.alarmEndpoint, .ofMillis v.interval⟩ ∧
      v.watch.settings = ⟨v.installEndpoint, .ofMillis v.syncInterval⟩ ∧
      e.watch.polling.state.config = v.watch.polling.state.config ∧
      e.watch.settings = v.watch.settings := by
  intro e
  refine ⟨?_, fun v notes hvalidate => ?_⟩
  · rw [validate_eq_error_iff, Ne, defect_eq_none_iff, Decidable.not_not]
    simp only [Text.trim_eq_nil_iff]
  · obtain ⟨hdefect, rfl⟩ := validate_eq_ok hvalidate
    have hinterval : usableInterval e.mended.interval = e.mended.interval :=
      usableInterval_of_le (le_usableInterval e.interval)
    have hperiod : usablePeriod e.mended.syncInterval = e.mended.syncInterval :=
      usablePeriod_of_le (le_usablePeriod e.syncInterval)
    have hconfig : e.mended.watch.polling.state.config =
        ⟨e.mended.alarmEndpoint, .ofMillis e.mended.interval⟩ := by
      rw [config_watch, hinterval]
    have hsettings : e.mended.watch.settings =
        ⟨e.mended.installEndpoint, .ofMillis e.mended.syncInterval⟩ := by
      rw [settings_watch, hperiod]
    refine ⟨rfl, usableInterval_withOverrides s o, validate_mended hdefect, fun _ => rfl, hconfig,
      hsettings, ?_, ?_⟩
    · rw [hconfig, config_watch]
      rfl
    · rw [hsettings, settings_watch]
      rfl

/-- Settings whose spans are just below their floors. -/
def lowSpans : Settings :=
  ⟨"http://localhost", "/alarms", 499, "/state", 1999, 1, ""⟩

/-- An override just below the floor. -/
def lowOverride : Overrides := { Overrides.none with interval := some 499 }

theorem floors_agree_of_lowSpans :
    ∃ v notes, (lowSpans.withOverrides lowOverride).1.validate = .ok (v, notes) ∧
      v.interval = 5000 ∧ v.syncInterval = 2000 ∧
      (lowSpans.withOverrides lowOverride).1.watch.polling.state.config =
        ⟨"/alarms", .ofMillis 5000⟩ := by
  have hvalidate := validate_of_usable (s := (lowSpans.withOverrides lowOverride).1) rfl
  obtain ⟨_, _, _, _, hconfig, _, hsame, _⟩ := (floors_agree lowSpans lowOverride).2 _ _ hvalidate
  exact ⟨_, _, hvalidate, rfl, rfl, hsame.trans hconfig⟩

end Settings

end AlarmMonitor
