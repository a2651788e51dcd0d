import AlarmMonitor.Backend.Reply
import AlarmMonitor.Polling.State

/-!
# One cycle of the poller

A cycle opens under the lock, waits for the backend without it, closes under the lock, and then
shows the new alarms without it.  `Cycle.step` runs the next of these pieces; between two steps of
a cycle anything else may happen to the shared state.
-/

set_option autoImplicit false

namespace AlarmMonitor.Polling

open AlarmMonitor.Backend (Reply)

/-- Where a cycle stands. -/
inductive Cycle where
  /-- Nothing has happened yet. -/
  | ready
  /-- The request of this session is on its way. -/
  | waiting (session : Nat) (endpoint : String)
  /-- The reply has come and has not been looked at. -/
  | answered (session : Nat) (endpoint : String) (reply : Reply)
  /-- These texts are still to be shown. -/
  | showing (fetched surfaced : Nat) (rest : List String)
  | ended (outcome : Outcome)
  deriving DecidableEq, Repr, Inhabited

/-- What an activity lets the outside see. -/
inductive Effect where
  | note (n : Note)
  /-- The task asks the backend for this endpoint. -/
  | request (task : Nat) (endpoint : String)
  /-- A text is handed to the sink. -/
  | show (text : String)
  /-- Options were merged; did anything change? -/
  | configured (changed : Bool)
  /-- A timer task was created. -/
  | spawned (task : Nat)
  /-- A task was told to end. -/
  | aborted (task : Nat)
  deriving DecidableEq, Repr

namespace Cycle

/-- Is the cycle suspended in its request? -/
def isWaiting : Cycle → Bool
  | .waiting .. | .answered .. => true
  | _ => false

/-- Hands the reply to a cycle that waits for one. -/
def deliver (reply : Reply) : Cycle → Option Cycle
  | .waiting session endpoint => some (.answered session endpoint reply)
  | _ => none

/-- The notes of a closing section. -/
def pruneNotes (evicted remaining : Nat) : List Effect :=
  if evicted = 0 then [] else [.note (.pruned evicted remaining)]

/-- Runs the next piece of a cycle of the given task; nothing if the cycle waits or has ended. -/
def step (hint : String) (now task : Nat) (s : State) : Cycle → Option (State × Cycle × List Effect)
  | .ready =>
    match s.openCycle now with
    | (s, .notRunning) => some (s, .ended .notRunning, [])
    | (s, .tooSoon ago) => some (s, .ended .debounced, [.note (.cycleSkipped ago)])
    | (s, .request session endpoint) =>
      some (s, .waiting session endpoint, [.request task endpoint])
  | .answered _ endpoint (.failure message) =>
    some (s, .ended .fetchFailed, [.note (.fetchFailed endpoint message)])
  | .answered session _ (.body text) =>
    match s.closeCycle session hint text with
    | (s, .discarded) => some (s, .ended .discarded, [.note .replyDiscarded])
    | (s, .processed fetched texts evicted remaining) =>
      some (s, .showing fetched texts.length texts, pruneNotes evicted remaining)
  | .showing fetched surfaced (text :: rest) =>
    some (s, .showing fetched surfaced rest, [.show text])
  | .showing fetched surfaced [] => some (s, .ended (.processed fetched surfaced), [])
  | .waiting .. => none
  | .ended _ => none

end Cycle

end AlarmMonitor.Polling
