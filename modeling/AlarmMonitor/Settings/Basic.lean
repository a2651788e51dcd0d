import AlarmMonitor.Alarm.Record
import AlarmMonitor.Http.Client
import AlarmMonitor.Install.Check
import AlarmMonitor.Log
import AlarmMonitor.Polling.Config
import AlarmMonitor.Text.Blank

/-!
# Settings

What the program is told to do, how the command line overrides it, and which settings are usable.
An override of the interval that is below the floor is ignored; an interval below the floor from
anywhere else falls back to the default, and a period of checks below its floor is raised to it.
-/

set_option autoImplicit false

namespace AlarmMonitor

/-- The settings of the program; spans are in milliseconds. -/
structure Settings where
  baseUrl : String
  alarmEndpoint : String
  interval : Nat
  installEndpoint : String
  syncInterval : Nat
  timeout : Nat
  detailHint : String
  deriving DecidableEq, Repr

namespace Settings

/-- The settings without any configuration. -/
def standard : Settings where
  baseUrl := Http.defaultBaseUrl
  alarmEndpoint := Polling.defaultEndpoint
  interval := Polling.defaultInterval.millis
  installEndpoint := Install.defaultEndpoint
  syncInterval := Install.defaultPeriod.millis
  timeout := Http.defaultTimeout.millis
  detailHint := Alarm.defaultHint

instance : Inhabited Settings := ⟨standard⟩

/-- Values given on the command line. -/
structure Overrides where
  baseUrl : Option String
  alarmEndpoint : Option String
  interval : Option Nat
  installEndpoint : Option String
  syncInterval : Option Nat
  timeout : Option Nat
  deriving DecidableEq, Repr

/-- No values. -/
def Overrides.none : Overrides := ⟨.none, .none, .none, .none, .none, .none⟩

instance : Inhabited Overrides := ⟨Overrides.none⟩

/-- What is said about settings that are changed to make them usable. -/
inductive Note where
  /-- An override below the floor is ignored; this interval is kept. -/
  | overrideIgnored (given kept : Nat)
  /-- An interval below the floor is replaced by the default. -/
  | intervalReplaced (given : Nat)
  /-- A period of checks below the floor is raised to it. -/
  | syncIntervalRaised (given : Nat)
  deriving DecidableEq, Repr

namespace Note

/-- The log line of a note. -/
def line : Note → Log.Line
  | .overrideIgnored given kept =>
    ⟨.warn, "alarmwatch::settings",
      "--interval-ms " ++ toString given ++ " is below the " ++
        toString Polling.minInterval.millis ++ "ms floor, keeping " ++ toString kept ++ "ms"⟩
  | .intervalReplaced given =>
    ⟨.warn, "alarmwatch::settings",
      "interval_ms " ++ toString given ++ " is below the " ++
        toString Polling.minInterval.millis ++ "ms floor, using " ++
        toString Polling.defaultInterval.millis ++ "ms"⟩
  | .syncIntervalRaised given =>
    ⟨.warn, "alarmwatch::settings",
      "sync_interval_ms " ++ toString given ++ " is below the " ++
        toString Install.minPeriod.millis ++ "ms floor, using the floor"⟩

end Note

/-- The interval after an override. -/
def overrideInterval (interval : Nat) : Option Nat → Nat × List Note
  | some v =>
    if Duration.ofMillis v < Polling.minInterval then (interval, [.overrideIgnored v interval])
    else (v, [])
  | none => (interval, [])

/-- The settings with the values of the command line on top. -/
def withOverrides (s : Settings) (o : Overrides) : Settings × List Note :=
  let (interval, notes) := overrideInterval s.interval o.interval
  ({ s with
      baseUrl := o.baseUrl.getD s.baseUrl
      alarmEndpoint := o.alarmEndpoint.getD s.alarmEndpoint
      interval
      installEndpoint := o.installEndpoint.getD s.installEndpoint
      syncInterval := o.syncInterval.getD s.syncInterval
      timeout := o.timeout.getD s.timeout }, notes)

/-- Why settings are not usable. -/
inductive Defect where
  | blankBaseUrl
  | blankEndpoint
  | zeroTimeout
  deriving DecidableEq, Repr

/-- The message about a defect. -/
def Defect.message : Defect → String
  | .blankBaseUrl => "base_url must not be empty"
  | .blankEndpoint => "endpoints must not be empty"
  | .zeroTimeout => "timeout_ms must be greater than zero"

/-- The first defect of settings. -/
def defect (s : Settings) : Option Defect :=
  if Text.isBlankText s.baseUrl then some .blankBaseUrl
  else if Text.isBlankText s.alarmEndpoint || Text.isBlankText s.installEndpoint then
    some .blankEndpoint
  else if s.timeout = 0 then some .zeroTimeout
  else none

/-- The settings with an interval that the poller accepts. -/
def mendInterval (s : Settings) : Settings × List Note :=
  if Duration.ofMillis s.interval < Polling.minInterval then
    ({ s with interval := Polling.defaultInterval.millis }, [.intervalReplaced s.interval])
  else (s, [])

/-- The settings with a period that the checks accept. -/
def mendSyncInterval (s : Settings) : Settings × List Note :=
  if Duration.ofMillis s.syncInterval < Install.minPeriod then
    ({ s with syncInterval := Install.minPeriod.millis }, [.syncIntervalRaised s.syncInterval])
  else (s, [])

/-- The settings that are used in place of these, or why they are not usable. -/
def validate (s : Settings) : Except Defect (Settings × List Note) :=
  match s.defect with
  | some d => .error d
  | none =>
    let (s, first) := s.mendInterval
    let (s, second) := s.mendSyncInterval
    .ok (s, first ++ second)

end Settings

end AlarmMonitor
