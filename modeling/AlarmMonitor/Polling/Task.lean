import AlarmMonitor.Polling.Cycle

/-!
# The tasks of a poller

Three kinds of activity work on the shared state: a call of `start`, a call that runs one cycle,
and the timer that a start leaves behind.  A task is suspended where it waits for something; only
there can it be dropped, and a task that was told to end takes no step from there.
-/

set_option autoImplicit false

namespace AlarmMonitor.Polling

/-- Where a call of `start` stands. -/
inductive Start where
  /-- Not begun. -/
  | entering (options : Options)
  /-- It opened this session and runs the first cycle. -/
  | cycling (session : Nat) (cycle : Cycle)
  /-- The first cycle has ended; the timer is to be installed. -/
  | arming (session : Nat)
  /-- The timer section is over; the guard of the session is about to be released. -/
  | leaving (session : Nat)
  /-- The call was dropped in its first cycle; the guard is about to undo the session. -/
  | cancelled (session : Nat)
  | returned
  deriving DecidableEq, Repr

/-- Where a timer stands. -/
inductive Timer where
  /-- Not begun. -/
  | spawned
  /-- About to look whether its session goes on. -/
  | checking
  /-- Asleep until this instant. -/
  | sleeping (wakeAt : Nat)
  | cycling (cycle : Cycle)
  | ended
  deriving DecidableEq, Repr

/-- A task of a poller. -/
inductive Task where
  | start (phase : Start)
  | poll (cycle : Cycle)
  | timer (session : Nat) (phase : Timer)
  /-- Dropped before its end. -/
  | gone
  deriving DecidableEq, Repr

namespace Task

/-- Does the task wait for something, or has it not begun? -/
def isSuspended : Task → Bool
  | .start (.entering _) => true
  | .start (.cycling _ c) => c.isWaiting
  | .poll .ready => true
  | .poll c => c.isWaiting
  | .timer _ .spawned => true
  | .timer _ (.sleeping _) => true
  | .timer _ (.cycling c) => c.isWaiting
  | _ => false

/-- Has the task come to its end? -/
def isFinished : Task → Bool
  | .start .returned => true
  | .poll (.ended _) => true
  | .timer _ .ended => true
  | .gone => true
  | _ => false

/-- Is the task a call that somebody waits for or will wait for?  Whoever made the call holds the
poller until it is over. -/
def isPendingCall : Task → Bool
  | .start .returned => false
  | .start _ => true
  | .poll (.ended _) => false
  | .poll _ => true
  | _ => false

/-- Is the task a timer inside a cycle?  It holds the poller for the time of the cycle. -/
def isCyclingTimer : Task → Bool
  | .timer _ (.cycling _) => true
  | _ => false

/-- Is the task a timer? -/
def isTimer : Task → Bool
  | .timer .. => true
  | _ => false

/-- Hands the reply to a task that waits for one. -/
def deliver (reply : Backend.Reply) : Task → Option Task
  | .start (.cycling session c) => (c.deliver reply).map fun c => .start (.cycling session c)
  | .poll c => (c.deliver reply).map .poll
  | .timer session (.cycling c) => (c.deliver reply).map fun c => .timer session (.cycling c)
  | _ => none

/-- What is left of a suspended task that is dropped: a start in its first cycle leaves its guard
behind. -/
def dropped : Task → Task
  | .start (.cycling session _) => .start (.cancelled session)
  | _ => .gone

end Task

end AlarmMonitor.Polling
