import AlarmMonitor.Polling.Task

/-!
# The poller as a transition system

`System` is a poller with all its tasks, the clock and the number of handles through which it can
be reached.  `System.apply` is one transition: a caller's act, one piece of one task, a reply of
the backend, a tick of the clock.  A transition never contains more than one critical section, so
the runs of this system are all the interleavings of the poller's activities.
-/

set_option autoImplicit false

namespace AlarmMonitor.Polling

open AlarmMonitor.Backend (Reply)

/-- A task and whether it was told to end. -/
structure Slot where
  task : Task
  aborted : Bool
  deriving DecidableEq, Repr

/-- A poller with its tasks. -/
structure System where
  /-- What is put behind the messages of alarms. -/
  hint : String
  /-- The clock, in nanoseconds. -/
  now : Nat
  /-- Handles that are held outside. -/
  handles : Nat
  state : State
  /-- All tasks ever created; a task is named by its place. -/
  slots : List Slot

/-- What can happen to a poller. -/
inductive Event where
  /-- A caller begins a start; the call is a new task. -/
  | start (options : Options)
  /-- A caller asks for one cycle; the call is a new task. -/
  | poll
  /-- The task runs its next piece. -/
  | step (task : Nat)
  /-- The backend answers the request of the task. -/
  | deliver (task : Nat) (reply : Reply)
  /-- The task of a call is told to end. -/
  | abort (task : Nat)
  /-- A suspended call is dropped by its caller, or a suspended task that was told to end is. -/
  | drop (task : Nat)
  | configure (options : Options)
  | stop
  | clearHistory
  /-- Time passes. -/
  | tick (span : Duration)
  /-- A handle is cloned. -/
  | retain
  /-- A handle is dropped. -/
  | release
  deriving DecidableEq, Repr

namespace System

/-- A new poller with one handle. -/
def new (hint : String) : System := ⟨hint, 0, 1, .initial, []⟩

instance : Inhabited System := ⟨new ""⟩

/-- The task at a place. -/
def task? (s : System) (id : Nat) : Option Task := (s.slots[id]?).map (·.task)

def setTask (s : System) (id : Nat) (t : Task) : System :=
  { s with slots := s.slots.modify id fun slot => { slot with task := t } }

/-- Tells a task to end. -/
def markAborted (s : System) (id : Nat) : System :=
  { s with slots := s.slots.modify id fun slot => { slot with aborted := true } }

/-- Adds a task; its name is the number of tasks before it. -/
def addTask (s : System) (t : Task) : System := { s with slots := s.slots ++ [⟨t, false⟩] }

/-- Does anybody outside hold the poller: by a handle, or by a call that is not over? -/
def isOwned (s : System) : Bool := 0 < s.handles || s.slots.any (·.task.isPendingCall)

/-- Is the poller still there: owned, or held by a timer inside a cycle? -/
def isAlive (s : System) : Bool := s.isOwned || s.slots.any (·.task.isCyclingTimer)

/-- A poller that nothing holds any more tells its timer to end. -/
def reap (s : System) : System :=
  if s.isAlive then s
  else match s.state.timer with
    | some t => { s.markAborted t.task with state := { s.state with timer := none } }
    | none => s

/-- Notes as effects. -/
def notes (ns : List Note) : List Effect := ns.map .note

/-- The next piece of a call of `start`. -/
def stepStart (s : System) (id : Nat) : Start → Option (System × List Effect)
  | .entering options =>
    match s.state.enter options with
    | none => some (s.setTask id (.start .returned), [])
    | some (state, ns) =>
      some ({ s with state }.setTask id (.start (.cycling state.session .ready)), notes ns)
  | .cycling session (.ended outcome) =>
    some (s.setTask id (.start (.arming session)), [.note (.firstCycle outcome)])
  | .cycling session c =>
    (c.step s.hint s.now id s.state).map fun (state, c, effects) =>
      ({ s with state }.setTask id (.start (.cycling session c)), effects)
  | .arming session =>
    let task := s.slots.length
    let (state, armed) := s.state.arm session task
    let s := { s with state }.setTask id (.start (.leaving session))
    if armed then some (s.addTask (.timer session .spawned), [.spawned task]) else some (s, [])
  | .leaving session =>
    let (state, undone) := s.state.rollBack session
    some ({ s with state }.setTask id (.start .returned),
      if undone then [.note .startCancelled] else [])
  | .cancelled session =>
    let (state, undone) := s.state.rollBack session
    some ({ s with state }.setTask id .gone, if undone then [.note .startCancelled] else [])
  | .returned => none

/-- The next piece of a timer: it looks after its session, sleeps, and runs a cycle if the poller
is still there. -/
def stepTimer (s : System) (id session : Nat) : Timer → Option (System × List Effect)
  | .spawned | .checking =>
    if s.isAlive then
      match s.state.timerInterval session with
      | some interval =>
        some (s.setTask id (.timer session (.sleeping (s.now + interval.nanos))), [])
      | none => some (s.setTask id (.timer session .ended), [])
    else some (s.setTask id (.timer session .ended), [])
  | .sleeping wakeAt =>
    if wakeAt ≤ s.now then
      if s.isAlive then some (s.setTask id (.timer session (.cycling .ready)), [])
      else some (s.setTask id (.timer session .ended), [])
    else none
  | .cycling (.ended outcome) =>
    some (s.setTask id (.timer session .checking), [.note (.scheduledCycle outcome)])
  | .cycling c =>
    (c.step s.hint s.now id s.state).map fun (state, c, effects) =>
      ({ s with state }.setTask id (.timer session (.cycling c)), effects)
  | .ended => none

/-- The next piece of a task. -/
def stepTask (s : System) (id : Nat) : Task → Option (System × List Effect)
  | .start phase => s.stepStart id phase
  | .poll c =>
    (c.step s.hint s.now id s.state).map fun (state, c, effects) =>
      ({ s with state }.setTask id (.poll c), effects)
  | .timer session phase => s.stepTimer id session phase
  | .gone => none

/-- A task that was told to end takes no step where it is suspended. -/
def step (s : System) (id : Nat) : Option (System × List Effect) :=
  match s.slots[id]? with
  | some slot =>
    if slot.aborted && slot.task.isSuspended then none else s.stepTask id slot.task
  | none => none

/-- The backend's answer to the request of a task. -/
def deliver (s : System) (id : Nat) (reply : Reply) : Option System :=
  (s.task? id).bind fun t => (t.deliver reply).map fun t => s.setTask id t

/-- Tells the task of a call to end. -/
def abort (s : System) (id : Nat) : Option (System × List Effect) :=
  match s.task? id with
  | some t => if t.isPendingCall then some (s.markAborted id, [.aborted id]) else none
  | none => none

/-- Drops a suspended task.  A timer is dropped only after it was told to end. -/
def drop (s : System) (id : Nat) : Option System :=
  match s.slots[id]? with
  | some slot =>
    if slot.task.isSuspended && (slot.aborted || !slot.task.isTimer) then
      some (s.setTask id slot.task.dropped)
    else none
  | none => none

/-- Stops the poller: the timer is told to end, and the running period is over. -/
def stop (s : System) : System × List Effect :=
  let ended := { s with state := s.state.stop }
  let told := if s.state.running then [Effect.note .stopped] else []
  match s.state.timer with
  | some t => (ended.markAborted t.task, .aborted t.task :: told)
  | none => (ended, told)

/-- A caller's act needs a poller that somebody holds. -/
def whenOwned (s : System) (r : System × List Effect) : Option (System × List Effect) :=
  if s.isOwned then some r else none

/-- A transition before the poller is possibly given up. -/
def act (s : System) : Event → Option (System × List Effect)
  | .start options => s.whenOwned (s.addTask (.start (.entering options)), [])
  | .poll => s.whenOwned (s.addTask (.poll .ready), [])
  | .step id => s.step id
  | .deliver id reply => (s.deliver id reply).map fun s => (s, [])
  | .abort id => s.abort id
  | .drop id => (s.drop id).map fun s => (s, [])
  | .configure options =>
    let (state, changed, ns) := s.state.configure options
    s.whenOwned ({ s with state }, notes ns ++ [.configured changed])
  | .stop => s.whenOwned s.stop
  | .clearHistory => s.whenOwned ({ s with state := s.state.clearHistory }, [])
  | .tick span => some ({ s with now := s.now + span.nanos }, [])
  | .retain => s.whenOwned ({ s with handles := s.handles + 1 }, [])
  | .release => if 0 < s.handles then some ({ s with handles := s.handles - 1 }, []) else none

/-- One transition: the new system and what it lets the outside see, or nothing if the event is
not possible. -/
def apply (s : System) (e : Event) : Option (System × List Effect) :=
  (s.act e).map fun (s, effects) => (s.reap, effects)

/-- A run: all events one after the other, with everything that the outside sees. -/
def run (s : System) : List Event → Option (System × List Effect)
  | [] => some (s, [])
  | e :: rest => do
    let (s, seen) ← s.apply e
    let (s, later) ← s.run rest
    return (s, seen ++ later)

/-- The system can be reached from a new one. -/
def Reachable (s : System) : Prop := ∃ hint events effects, (new hint).run events = some (s, effects)

/-- The poller in a diagnostic. -/
def describe (s : System) : String :=
  "PollingService \x7b config: " ++ s.state.config.describe ++ ", running: " ++
    toString s.state.running ++ ", seen: " ++ toString s.state.seen.size ++ " \x7d"

end System

end AlarmMonitor.Polling
