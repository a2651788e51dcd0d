import AlarmMonitor.Log
import AlarmMonitor.Time.Duration

/-!
# Outcomes and notes of the poller
-/

set_option autoImplicit false

namespace AlarmMonitor.Polling

/-- What one cycle did. -/
inductive Outcome where
  /-- The poller is stopped; nothing was asked. -/
  | notRunning
  /-- Another request began too shortly before. -/
  | debounced
  /-- The request failed. -/
  | fetchFailed
  /-- The poller was stopped or restarted while the request was on its way. -/
  | discarded
  /-- The reply held so many records, and so many of them were new. -/
  | processed (fetched surfaced : Nat)
  deriving DecidableEq, Repr, Inhabited

namespace Outcome

/-- The outcome in a diagnostic. -/
def describe : Outcome → String
  | .notRunning => "NotRunning"
  | .debounced => "Debounced"
  | .fetchFailed => "FetchFailed"
  | .discarded => "Discarded"
  | .processed fetched surfaced =>
    "Processed \x7b fetched: " ++ toString fetched ++ ", surfaced: " ++ toString surfaced ++ " \x7d"

end Outcome

/-- What the poller says about its work. -/
inductive Note where
  | intervalIgnored (given floor : Duration)
  | started (endpoint : String) (interval : Duration)
  | stopped
  | startCancelled
  | cycleSkipped (ago : Duration)
  | fetchFailed (endpoint message : String)
  | replyDiscarded
  | pruned (evicted remaining : Nat)
  | firstCycle (outcome : Outcome)
  | scheduledCycle (outcome : Outcome)
  deriving DecidableEq, Repr

namespace Note

/-- The log line of a note. -/
def line : Note → Log.Line
  | .intervalIgnored given floor =>
    ⟨.debug, "alarmwatch_engine::config",
      "Ignoring poll interval " ++ given.text ++ " below floor " ++ floor.text⟩
  | .started endpoint interval =>
    ⟨.info, "alarmwatch_engine::service",
      "Alarm polling started: endpoint=" ++ endpoint ++ ", interval=" ++ interval.text⟩
  | .stopped => ⟨.info, "alarmwatch_engine::service", "Alarm polling stopped"⟩
  | .startCancelled =>
    ⟨.debug, "alarmwatch_engine::service", "Alarm polling start was cancelled, rolling back"⟩
  | .cycleSkipped ago =>
    ⟨.debug, "alarmwatch_engine::service",
      "Skipping alarm cycle: previous one started " ++ ago.text ++ " ago"⟩
  | .fetchFailed endpoint message =>
    ⟨.debug, "alarmwatch_engine::service",
      "Alarm fetch from " ++ endpoint ++ " failed: " ++ message⟩
  | .replyDiscarded =>
    ⟨.debug, "alarmwatch_engine::service", "Discarding alarm response that arrived after stop"⟩
  | .pruned evicted remaining =>
    ⟨.debug, "alarmwatch_engine::service",
      "Pruned " ++ toString evicted ++ " old alarm keys, " ++ toString remaining ++ " remain"⟩
  | .firstCycle outcome =>
    ⟨.debug, "alarmwatch_engine::service", "Initial alarm cycle: " ++ outcome.describe⟩
  | .scheduledCycle outcome =>
    ⟨.debug, "alarmwatch_engine::service", "Scheduled alarm cycle: " ++ outcome.describe⟩

end Note

end AlarmMonitor.Polling
