import AlarmMonitor.Backend.Reply
import AlarmMonitor.Install.Cell
import AlarmMonitor.Install.Report
import AlarmMonitor.Log
import AlarmMonitor.Time.Duration

/-!
# Checking the installation status

A check asks the backend for its report and applies a recognised status to the cell.  Everything
else, a failed request as well as an unknown signal, leaves the last known good status alone.
-/

set_option autoImplicit false

namespace AlarmMonitor.Install

open AlarmMonitor.Backend (Reply)

/-- The endpoint asked unless configured otherwise. -/
def defaultEndpoint : String := "/api/install_state"

/-- The time between two checks unless configured otherwise. -/
def defaultPeriod : Duration := .ofMillis 10000

/-- The shortest time between two checks. -/
def minPeriod : Duration := .ofMillis 2000

/-- Whom to ask for the status, and how often. -/
structure Settings where
  endpoint : String
  period : Duration
  deriving DecidableEq, Repr

namespace Settings

/-- What is asked unless configured otherwise. -/
def standard : Settings := ⟨defaultEndpoint, defaultPeriod⟩

instance : Inhabited Settings := ⟨standard⟩

/-- Another period, raised to the floor if it is below. -/
def withPeriod (s : Settings) (d : Duration) : Settings := { s with period := d.max minPeriod }

/-- What is asked if some of it is configured. -/
def ofOptions (endpoint : Option String) (period : Option Duration) : Settings :=
  let s : Settings := ⟨endpoint.getD defaultEndpoint, defaultPeriod⟩
  match period with
  | some d => s.withPeriod d
  | none => s

end Settings

/-- What one check did. -/
inductive Outcome where
  /-- The status reported differs from the one before and replaced it. -/
  | changed (s : Status)
  /-- The status reported is the one before. -/
  | unchanged (s : Status)
  /-- The report has no recognised signal. -/
  | unrecognised
  /-- The request failed. -/
  | failed
  deriving DecidableEq, Repr, Inhabited

namespace Outcome

/-- The outcome in a diagnostic. -/
def describe : Outcome → String
  | .changed s => "Changed(" ++ s.label ++ ")"
  | .unchanged s => "Unchanged(" ++ s.label ++ ")"
  | .unrecognised => "Unrecognised"
  | .failed => "Failed"

end Outcome

/-- What a check says about its work. -/
inductive Note where
  | statusChanged (s : Status)
  | fetchFailed (endpoint message : String)
  | checked (outcome : Outcome)
  | bootUnrecognised
  | bootFailed (message : String)
  | bootReported (s : Status)
  deriving DecidableEq, Repr

namespace Note

/-- The log line of a note. -/
def line : Note → Log.Line
  | .statusChanged s =>
    ⟨.info, "alarmwatch_engine::sync", "Install state changed to " ++ s.name⟩
  | .fetchFailed endpoint message =>
    ⟨.debug, "alarmwatch_engine::sync",
      "Install-state fetch from " ++ endpoint ++ " failed: " ++ message⟩
  | .checked outcome =>
    ⟨.debug, "alarmwatch_engine::sync", "Install-state check: " ++ outcome.describe⟩
  | .bootUnrecognised =>
    ⟨.debug, "alarmwatch_engine::watcher", "Boot install check returned no recognised state"⟩
  | .bootFailed message =>
    ⟨.debug, "alarmwatch_engine::watcher",
      "Boot install check failed, polling stays off: " ++ message⟩
  | .bootReported s => ⟨.info, "alarmwatch_engine::watcher", "Boot install check: " ++ s.name⟩

end Note

/-- The status in a body, if it is a report with a recognised signal. -/
def reported (body : String) : Option Status := (Report.read body).bind (·.installStatus)

/-- Applies a reply to the cell: the new cell, the outcome, and what is said about it. -/
def applyReply (c : Cell) (endpoint : String) : Reply → Cell × Outcome × List Note
  | .failure message => (c, .failed, [.fetchFailed endpoint message])
  | .body text =>
    match reported text with
    | none => (c, .unrecognised, [])
    | some s =>
      match c.set s with
      | (c, true) => (c, .changed s, [.statusChanged s])
      | (c, false) => (c, .unchanged s, [])

end AlarmMonitor.Install
