import AlarmMonitor.Time.Duration
import AlarmMonitor.Text.Quoted

/-!
# Configuration of the poller

The endpoint that is asked for alarms and the time between two scheduled cycles.  Options are
merged into it one field at a time; an interval below the floor is ignored.
-/

set_option autoImplicit false

namespace AlarmMonitor.Polling

/-- The endpoint asked unless configured otherwise. -/
def defaultEndpoint : String := "/api/event_result"

/-- The interval unless configured otherwise. -/
def defaultInterval : Duration := .ofMillis 5000

/-- The shortest interval that can be configured. -/
def minInterval : Duration := .ofMillis 500

/-- A cycle that begins less than this after the last request is skipped. -/
def debounceWindow : Duration := .ofMillis 200

/-- What the poller asks and how often. -/
structure Config where
  endpoint : String
  interval : Duration
  deriving DecidableEq, Repr

namespace Config

/-- The configuration of a new poller. -/
def standard : Config := ⟨defaultEndpoint, defaultInterval⟩

instance : Inhabited Config := ⟨standard⟩

/-- The configuration in a diagnostic. -/
def describe (c : Config) : String :=
  "PollConfig \x7b endpoint: " ++ Text.quoted c.endpoint ++ ", interval: " ++ c.interval.text ++
    " \x7d"

end Config

/-- Changes to a configuration; an absent field stays as it is. -/
structure Options where
  endpoint : Option String
  interval : Option Duration
  deriving DecidableEq, Repr

namespace Options

/-- No changes. -/
def none : Options := ⟨.none, .none⟩

instance : Inhabited Options := ⟨Options.none⟩

end Options

/-- The outcome of merging options: the new configuration, whether it differs from the old one,
and an interval that was ignored. -/
structure Merged where
  config : Config
  changed : Bool
  ignored : Option Duration
  deriving DecidableEq, Repr

namespace Config

/-- Merges the endpoint. -/
def mergeEndpoint (c : Config) : Option String → Config × Bool
  | some e => if e = c.endpoint then (c, false) else ({ c with endpoint := e }, true)
  | none => (c, false)

/-- Merges the interval. -/
def mergeInterval (c : Config) : Option Duration → Merged
  | some i =>
    if i < minInterval then ⟨c, false, some i⟩
    else if i = c.interval then ⟨c, false, none⟩
    else ⟨{ c with interval := i }, true, none⟩
  | none => ⟨c, false, none⟩

/-- Merges options into a configuration. -/
def merge (c : Config) (o : Options) : Merged :=
  let (c, endpointChanged) := c.mergeEndpoint o.endpoint
  let m := c.mergeInterval o.interval
  { m with changed := endpointChanged || m.changed }

end Config

end AlarmMonitor.Polling
