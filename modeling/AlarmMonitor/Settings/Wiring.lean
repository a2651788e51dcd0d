import AlarmMonitor.Settings.Basic
import AlarmMonitor.Watch.System

/-!
# A watch from settings
-/

set_option autoImplicit false

namespace AlarmMonitor.Settings

/-- What the poller is configured with. -/
def pollOptions (s : Settings) : Polling.Options :=
  ⟨some s.alarmEndpoint, some (.ofMillis s.interval)⟩

/-- What the checks are configured with. -/
def checks (s : Settings) : Install.Settings :=
  .ofOptions (some s.installEndpoint) (some (.ofMillis s.syncInterval))

/-- The watch that the settings describe. -/
def watch (s : Settings) : Watch.System :=
  .build s.detailHint s.pollOptions s.checks default

/-- The poller asks the endpoint of the settings. -/
theorem checks_endpoint (s : Settings) : s.checks.endpoint = s.installEndpoint := rfl

end AlarmMonitor.Settings
