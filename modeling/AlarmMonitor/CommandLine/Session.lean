import AlarmMonitor.CommandLine.Arguments
import AlarmMonitor.Http.Client
import AlarmMonitor.Log.Filter
import AlarmMonitor.Settings.Load
import AlarmMonitor.Settings.Wiring
import AlarmMonitor.Simulation.Scenario

/-!
# A session of the program

A session reads the command line, loads and checks the settings, builds the client and then
watches: once, or until it is interrupted.  `Session.run` is a session whose server cannot be
reached.  What it finds is the exit code, the lines written, and the complaint.
-/

set_option autoImplicit false

namespace AlarmMonitor.CommandLine

open AlarmMonitor.Install (Status)
open AlarmMonitor.Simulation (Act Answer Result Scenario)

/-! ## What is said -/

/-- What the program says about its own work. -/
inductive Note where
  | watching (s : Settings)
  | installed (alarms : Nat)
  | notInstalled
  | unavailable
  | shuttingDown
  deriving DecidableEq, Repr

/-- The text of a note. -/
def Note.text : Note → String
  | .watching s =>
    "Watching " ++ s.baseUrl ++ " (alarms every " ++ toString s.interval ++
      "ms, install state every " ++ toString s.syncInterval ++ "ms)"
  | .installed alarms => "Installed, " ++ toString alarms ++ " alarm(s) seen"
  | .notInstalled => "Not installed, nothing to poll"
  | .unavailable => "Install state unavailable, nothing polled"
  | .shuttingDown => "Shutting down"

/-- The log line of a note. -/
def Note.line (n : Note) : Log.Line := ⟨.info, programName, n.text⟩

/-- The filter used unless another one is configured. -/
def defaultFilter : Log.Filter :=
  [⟨some "alarmwatch", [], some .info⟩, ⟨some "alarmwatch_engine", [], some .info⟩]

/-- The variable that holds the filter. -/
def filterVariable : String := "RUST_LOG"

/-- The filter in the environment; a text that is no filter counts for nothing. -/
def filterOf (vars : List Settings.Environment.Variable) : Log.Filter :=
  ((vars.lookup filterVariable).bind Log.Filter.read).getD defaultFilter

/-! ## What is done -/

namespace Session

/-- The failure of a request to a server that cannot be reached. -/
def failing (c : Http.Client) (endpoint : String) : Answer :=
  ⟨.failure (c.unreachable endpoint false).message, 0⟩

/-- A backend that cannot reach its server. -/
def unreachable (c : Http.Client) (s : Settings) : Backend.Script Answer :=
  (Backend.Script.empty.push s.installEndpoint (failing c s.installEndpoint)).push
    s.alarmEndpoint (failing c s.alarmEndpoint)

/-- A watch over a backend, which nobody else holds. -/
def scenario (s : Settings) (backend : Backend.Script Answer) : Scenario :=
  .ofWatch s.detailHint s.pollOptions s.checks default backend [] false false

/-- Carries out an act; the lines logged meanwhile, the first one first. -/
def act (s : Scenario) (a : Act) : Scenario × Result × List Log.Line :=
  let (s, r) := s.forget.perform a
  (s, r, s.world.logged.reverse)

/-- What is said about the result of the check at boot. -/
def verdict (s : Scenario) : Result → Note
  | .status (some .install) => .installed s.world.system.polling.state.seen.size
  | .status (some .uninstall) => .notInstalled
  | _ => .unavailable

/-- Checks the status, polls at most once, and stops. -/
def once (s : Scenario) : List Log.Line :=
  let (s, r, first) := act s .boot
  let (_, _, later) := act s .stop
  first ++ (verdict s r).line :: later

/-- Watches until it is interrupted. -/
def untilInterrupted (s : Scenario) : List Log.Line :=
  let (s, _, first) := act s .launch
  let (_, _, later) := act s .shutDown
  first ++ Note.line .shuttingDown :: later

/-- The lines of the connection that the check at boot asks for. -/
def connection (c : Http.Client) (s : Settings) : List Log.Line :=
  match c.target s.installEndpoint with
  | .ok u => Http.Client.connectLines u
  | .error _ => []

/-- Watches with usable settings. -/
def watch (s : Settings) (c : Http.Client) (single : Bool) : List Log.Line :=
  let start := scenario s (unreachable c s)
  Note.line (.watching s) :: connection c s ++
    (if single then once start else untilInterrupted start)

/-- Why the program does not come to watch. -/
inductive Obstacle where
  | settings (f : Settings.Fault)
  | defect (d : Settings.Defect)
  | client (f : Http.Failure)

/-- The message about an obstacle. -/
def Obstacle.message : Obstacle → String
  | .settings f => f.message
  | .defect d => d.message
  | .client f => f.message

/-- The lines logged, and what ended the program early. -/
structure Log where
  lines : List AlarmMonitor.Log.Line
  obstacle : Option Obstacle

/-- The lines of settings that were changed to make them usable. -/
def noteLines (ns : List Settings.Note) : List AlarmMonitor.Log.Line := ns.map (·.line)

/-- Checks the settings, builds the client, and watches. -/
def proceed (s : Settings) (single : Bool) : Log :=
  match s.validate with
  | .error d => ⟨[], some (.defect d)⟩
  | .ok (s, ns) =>
    match Http.Client.build (some s.baseUrl) (some (.ofMillis s.timeout)) with
    | .error f => ⟨noteLines ns, some (.client f)⟩
    | .ok c => ⟨noteLines ns ++ watch s c single, none⟩

/-- Loads the settings, puts the command line on top, and goes on. -/
def log (a : Arguments) (folder : Settings.Folder)
    (vars : List Settings.Environment.Variable) : Log :=
  match Settings.load folder a.config vars with
  | .error f => ⟨[], some (.settings f)⟩
  | .ok s =>
    let (s, ns) := s.withOverrides a.overrides
    let rest := proceed s a.once
    { rest with lines := noteLines ns ++ rest.lines }

/-! ## What is seen -/

/-- The end of a session. -/
structure Ending where
  exit : Nat
  output : List String
  complaint : Option String
  deriving DecidableEq, Repr

/-- The end of a session that was asked to run. -/
def ending (filter : AlarmMonitor.Log.Filter) (l : Log) : Ending :=
  let output := (l.lines.filter filter.admits).map (·.shown)
  match l.obstacle with
  | some o => ⟨1, output, some ("Error: " ++ o.message)⟩
  | none => ⟨0, output, none⟩

/-- A session with its words, its files and its environment. -/
def run (words : List String) (folder : Settings.Folder)
    (vars : List Settings.Environment.Variable) : Ending :=
  match CommandLine.read words with
  | .error m => ⟨2, [], some ("error: " ++ m.message)⟩
  | .ok .help => ⟨0, helpText, none⟩
  | .ok (.run a) => ending (filterOf vars) (log a folder vars)

/-- A mistake on the command line ends the session before anything is loaded. -/
theorem run_of_mistake {words : List String} {m : Mistake} (h : CommandLine.read words = .error m)
    (folder : Settings.Folder) (vars : List Settings.Environment.Variable) :
    run words folder vars = ⟨2, [], some ("error: " ++ m.message)⟩ := by
  simp [run, h]

end Session

end AlarmMonitor.CommandLine
