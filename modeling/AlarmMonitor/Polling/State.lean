import AlarmMonitor.Polling.Config
import AlarmMonitor.Polling.History
import AlarmMonitor.Polling.Outcome

/-!
# The shared state of the poller and its critical sections

All activities of a poller share one state under one lock.  Each function here is one critical
section: what happens between taking the lock and giving it back.  Every running period has a
session number of its own, which is how work left over from an earlier period is told apart.
Instants are nanoseconds of the clock.
-/

set_option autoImplicit false

namespace AlarmMonitor.Polling

/-- The timer that repeats the cycle: its task and the session it polls for. -/
structure TimerRef where
  task : Nat
  session : Nat
  deriving DecidableEq, Repr

/-- What the lock protects. -/
structure State where
  config : Config
  running : Bool
  /-- Raised by every start that takes effect.  A counter of 64 bits would do: `2 ^ 64` such starts
  are out of the reach of any run. -/
  session : Nat
  seen : History
  /-- When the last request of the running period began. -/
  lastCycle : Option Nat
  timer : Option TimerRef

namespace State

/-- The state of a new poller, which is stopped. -/
def initial : State := ⟨.standard, false, 0, .empty, none, none⟩

instance : Inhabited State := ⟨initial⟩

/-- The notes of a merge. -/
def mergeNotes (m : Merged) : List Note :=
  match m.ignored with
  | some d => [.intervalIgnored d minInterval]
  | none => []

/-- Merges options; says whether anything changed. -/
def configure (s : State) (o : Options) : State × Bool × List Note :=
  let m := s.config.merge o
  ({ s with config := m.config }, m.changed, mergeNotes m)

/-- The section that opens a start: a running poller is left alone, otherwise the options are
merged and a new session begins. -/
def enter (s : State) (o : Options) : Option (State × List Note) :=
  if s.running then none
  else
    let m := s.config.merge o
    some ({ s with config := m.config, running := true, session := s.session + 1 },
      mergeNotes m ++ [.started m.config.endpoint m.config.interval])

/-- What the opening section of a cycle decides. -/
inductive Opening where
  | notRunning
  /-- The last request began so long ago. -/
  | tooSoon (ago : Duration)
  /-- A request for this session goes to this endpoint. -/
  | request (session : Nat) (endpoint : String)
  deriving DecidableEq, Repr

/-- The section that opens a cycle at the instant `now`. -/
def openCycle (s : State) (now : Nat) : State × Opening :=
  if !s.running then (s, .notRunning)
  else
    let ask := ({ s with lastCycle := some now }, .request s.session s.config.endpoint)
    match s.lastCycle with
    | some last =>
      let ago := Duration.between last now
      if ago < debounceWindow then (s, .tooSoon ago) else ask
    | none => ask

/-- What the closing section of a cycle decides. -/
inductive Closing where
  | discarded
  /-- So many records came, these texts are to be shown, and so many keys were forgotten. -/
  | processed (fetched : Nat) (texts : List String) (evicted remaining : Nat)
  deriving DecidableEq, Repr

/-- The section that takes in the body of a reply to a request of this session. -/
def closeCycle (s : State) (session : Nat) (hint body : String) : State × Closing :=
  if !s.running || s.session != session then (s, .discarded)
  else
    let alarms := Alarm.ofBody body
    let (seen, fresh) := s.seen.insertRecords alarms
    let (seen, evicted) := seen.prune
    ({ s with seen }, .processed alarms.length (fresh.map (·.render hint)) evicted seen.size)

/-- Is the poller in this session without a timer? -/
def awaitsTimer (s : State) (session : Nat) : Bool :=
  s.running && s.session == session && s.timer.isNone

/-- The section that ends a start: the timer task is installed unless the session is over. -/
def arm (s : State) (session task : Nat) : State × Bool :=
  if s.awaitsTimer session then ({ s with timer := some ⟨task, session⟩ }, true) else (s, false)

/-- The section of the guard of a start: a session that still has no timer is undone. -/
def rollBack (s : State) (session : Nat) : State × Bool :=
  if s.awaitsTimer session then
    ({ s with running := false, seen := s.seen.clear, lastCycle := none }, true)
  else (s, false)

/-- Stops the poller and forgets the alarms of the running period. -/
def stop (s : State) : State :=
  { s with running := false, seen := s.seen.clear, lastCycle := none, timer := none }

/-- Forgets the alarms and changes nothing else. -/
def clearHistory (s : State) : State := { s with seen := s.seen.clear }

/-- The section in which a timer learns how long to sleep; nothing if its session is over. -/
def timerInterval (s : State) (session : Nat) : Option Duration :=
  if !s.running || s.session != session then none else some s.config.interval

end State

end AlarmMonitor.Polling
