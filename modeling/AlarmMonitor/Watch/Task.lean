import AlarmMonitor.Install.Check

/-!
# The tasks of a watch

Beside the tasks of its poller a watch has tasks of its own: the check at boot, the observer that
turns transitions of the status into starts and stops, the loop that checks the status
periodically, single checks, and the shutdown of all of them.  A task that works on the poller
names the poller's task it waits for.
-/

set_option autoImplicit false

namespace AlarmMonitor.Watch

open AlarmMonitor.Backend (Reply)
open AlarmMonitor.Install (Status Subscription)

/-- Where the check at boot stands. -/
inductive Boot where
  | ready
  /-- The request is on its way. -/
  | waiting
  | answered (reply : Reply)
  /-- The status has been set; the poller has not been told. -/
  | acting (s : Status)
  /-- The poller's task `call` is starting it. -/
  | starting (s : Status) (call : Nat)
  /-- The poller has been stopped; the client has not been reset. -/
  | stopped (s : Status)
  | ended (result : Option Status)
  deriving DecidableEq, Repr, Inhabited

/-- Where the observer stands. -/
inductive Observer where
  /-- It waits for a transition. -/
  | watching
  /-- It has seen a transition to this status. -/
  | acting (s : Status)
  /-- The poller's task `call` is starting it. -/
  | starting (call : Nat)
  /-- The poller has been stopped; the client has not been reset. -/
  | stopped
  | ended
  deriving DecidableEq, Repr, Inhabited

/-- Where the loop of periodic checks stands; `next` is the instant of its next check. -/
inductive Loop where
  | spawned
  | waiting (next : Nat)
  /-- The request is on its way. -/
  | asking (next : Nat)
  | answered (next : Nat) (reply : Reply)
  | ended
  deriving DecidableEq, Repr, Inhabited

/-- Where a single question stands that ends with a result. -/
inductive Query (α : Type) where
  | ready
  | waiting
  | answered (reply : Reply)
  | ended (result : α)
  deriving DecidableEq, Repr, Inhabited

/-- Where the shutdown of a running watch stands. -/
inductive Shutdown where
  /-- The loop is to be told to end. -/
  | signalling
  /-- It waits for the loop. -/
  | joining
  /-- The observer is to be told to end. -/
  | aborting
  /-- The poller is to be stopped. -/
  | stopping
  /-- The handles are to be given up. -/
  | releasing
  | ended
  deriving DecidableEq, Repr, Inhabited

/-- What a single question about the status finds: the failure, or the status if it was
recognised. -/
abbrev Answer := Except String (Option Status)

/-- A task of a watch. -/
inductive Task where
  /-- A boot check alone. -/
  | boot (phase : Boot)
  /-- A boot check after which observer and loop are created. -/
  | launch (phase : Boot)
  /-- A launch that is over, with the observer and the loop it created. -/
  | launched (observer loop : Nat)
  | observer (sub : Subscription) (phase : Observer)
  /-- A loop, and whether it was asked to end. -/
  | loop (settings : Install.Settings) (halting : Bool) (phase : Loop)
  | check (phase : Query Install.Outcome)
  | fetch (phase : Query Answer)
  | shutdown (observer loop : Nat) (phase : Shutdown)
  /-- Dropped before its end. -/
  | gone

namespace Query

/-- Hands the reply to a question that waits for one. -/
def deliver {α : Type} (reply : Reply) : Query α → Option (Query α)
  | .waiting => some (.answered reply)
  | _ => none

end Query

namespace Boot

/-- Hands the reply to a boot check that waits for one. -/
def deliver (reply : Reply) : Boot → Option Boot
  | .waiting => some (.answered reply)
  | _ => none

/-- The poller's task that the boot check waits for. -/
def call? : Boot → Option Nat
  | .starting _ call => some call
  | _ => none

end Boot

namespace Observer

/-- The poller's task that the observer waits for. -/
def call? : Observer → Option Nat
  | .starting call => some call
  | _ => none

end Observer

namespace Task

/-- Hands the reply to a task that waits for one. -/
def deliver (reply : Reply) : Task → Option Task
  | .boot b => (b.deliver reply).map .boot
  | .launch b => (b.deliver reply).map .launch
  | .loop settings halting (.asking next) => some (.loop settings halting (.answered next reply))
  | .check q => (q.deliver reply).map .check
  | .fetch q => (q.deliver reply).map .fetch
  | _ => none

/-- The poller's task that a task waits for. -/
def call? : Task → Option Nat
  | .boot b => b.call?
  | .launch b => b.call?
  | .observer _ o => o.call?
  | _ => none

end Task

end AlarmMonitor.Watch
