import AlarmMonitor.Polling.System
import AlarmMonitor.Watch.Task

/-!
# The watch as a transition system

A watch ties a poller to the installation status: its system holds the poller's system, the status
cell and the watch's own tasks.  `System.apply` is one transition.  It works on the poller only
through transitions of the poller's own system, so the poller inside a reachable watch is a
reachable poller.
-/

set_option autoImplicit false

namespace AlarmMonitor.Watch

open AlarmMonitor.Backend (Reply)
open AlarmMonitor.Install (Status Cell)

/-- A task and whether it was told to end. -/
structure Slot where
  task : Task
  aborted : Bool

/-- A watch with its poller. -/
structure System where
  polling : Polling.System
  cell : Cell
  /-- Whom to ask for the status, and how often. -/
  settings : Install.Settings
  /-- All tasks ever created; a task is named by its place. -/
  slots : List Slot

/-- What can happen to a watch. -/
inductive Event where
  /-- Something happens to the poller; the clock is the poller's. -/
  | poller (e : Polling.Event)
  /-- The status is set from outside. -/
  | set (s : Status)
  /-- A boot check begins. -/
  | boot
  /-- The watch is launched: a boot check, then observer and loop. -/
  | launch
  /-- A single check begins. -/
  | check
  /-- A single question begins that leaves the status alone. -/
  | fetch
  /-- A loop of periodic checks is created. -/
  | spawnLoop
  /-- The task runs its next piece. -/
  | step (task : Nat)
  /-- A loop notices that it was asked to end. -/
  | halt (task : Nat)
  /-- The backend answers the request of the task. -/
  | deliver (task : Nat) (reply : Reply)
  /-- A suspended task is dropped: by whoever waits for it, or after it was told to end. -/
  | drop (task : Nat)
  /-- A loop is asked to end. -/
  | askToEnd (loop : Nat)
  /-- The handle of a launched watch is dropped. -/
  | dropHandle (loop : Nat)
  /-- The shutdown of a launched watch begins. -/
  | shutdown (observer loop : Nat)
  /-- A handle on the status is cloned. -/
  | retainStatus
  /-- A handle on the status is dropped. -/
  | releaseStatus

/-- What a watch lets the outside see. -/
inductive Effect where
  | poller (e : Polling.Effect)
  | note (n : Install.Note)
  /-- The task asks the backend for this endpoint. -/
  | request (task : Nat) (endpoint : String)
  /-- The status changed. -/
  | transition (s : Status)
  /-- The client state is reset. -/
  | reset
  /-- A task was created. -/
  | spawned (task : Nat)
  /-- A task was told or asked to end. -/
  | told (task : Nat)
  deriving DecidableEq, Repr

namespace System

/-- A watch that has not been launched.  It holds the poller once and the status twice: by itself
and by its settings for the checks. -/
def new (hint : String) (settings : Install.Settings) (initial : Status) : System :=
  ⟨.new hint, { Cell.new initial with handles := 2 }, settings, []⟩

/-- The task at a place. -/
def task? (s : System) (id : Nat) : Option Task := (s.slots[id]?).map (·.task)

def setTask (s : System) (id : Nat) (t : Task) : System :=
  { s with slots := s.slots.modify id fun slot => { slot with task := t } }

/-- Tells a task to end. -/
def markAborted (s : System) (id : Nat) : System :=
  { s with slots := s.slots.modify id fun slot => { slot with aborted := true } }

/-- Adds a task; its name is the number of tasks before it. -/
def addTask (s : System) (t : Task) : System := { s with slots := s.slots ++ [⟨t, false⟩] }

/-- Notes as effects. -/
def notes (ns : List Install.Note) : List Effect := ns.map .note

/-- A transition of the poller inside a watch. -/
def poller (s : System) (e : Polling.Event) : Option (System × List Effect) :=
  (s.polling.apply e).map fun (p, effects) => ({ s with polling := p }, effects.map .poller)

/-- Is the poller's task over? -/
def callIsOver (s : System) (call : Nat) : Bool := (s.polling.task? call).any (·.isFinished)

/-- Is the poller's task suspended? -/
def callIsSuspended (s : System) (call : Nat) : Bool :=
  (s.polling.task? call).any (·.isSuspended)

/-- A watch whose poller takes options before anything else happens. -/
def build (hint : String) (options : Polling.Options) (settings : Install.Settings)
    (initial : Status) : System :=
  let s := new hint settings initial
  match s.poller (.configure options) with
  | some (s, _) => s
  | none => s

/-- Sets the status. -/
def setStatus (s : System) (v : Status) : System × List Effect :=
  match s.cell.set v with
  | (cell, true) => ({ s with cell }, [.transition v])
  | (cell, false) => ({ s with cell }, [])

/-- Applies a reply to the status. -/
def applyReply (s : System) (endpoint : String) (reply : Reply) :
    System × Install.Outcome × List Effect :=
  let (cell, outcome, ns) := Install.applyReply s.cell endpoint reply
  let seen := match outcome with
    | .changed v => [Effect.transition v]
    | _ => []
  ({ s with cell }, outcome, seen ++ notes ns)

/-- Begins a start of the poller on behalf of a task; `next` is the task that waits for the
call. -/
def beginStart (s : System) (id : Nat) (next : Nat → Task) : Option (System × List Effect) :=
  let call := s.polling.slots.length
  (s.poller (.start .none)).map fun (s, effects) => (s.setTask id (next call), effects)

/-- Stops the poller on behalf of a task. -/
def stopPoller (s : System) (id : Nat) (next : Task) : Option (System × List Effect) :=
  (s.poller .stop).map fun (s, effects) => (s.setTask id next, effects)

/-- The next piece of a boot check; `wrap` says what kind of task it belongs to. -/
def stepBoot (s : System) (id : Nat) (wrap : Boot → Task) : Boot → Option (System × List Effect)
  | .ready => some (s.setTask id (wrap .waiting), [.request id s.settings.endpoint])
  | .answered (.failure message) =>
    some (s.setTask id (wrap (.ended none)), [.note (.bootFailed message)])
  | .answered (.body text) =>
    match Install.reported text with
    | none => some (s.setTask id (wrap (.ended none)), [.note .bootUnrecognised])
    | some v =>
      let (s, effects) := s.setStatus v
      some (s.setTask id (wrap (.acting v)), .note (.bootReported v) :: effects)
  | .acting .install => s.beginStart id fun call => wrap (.starting .install call)
  | .acting .uninstall => s.stopPoller id (wrap (.stopped .uninstall))
  | .starting v call =>
    if s.callIsOver call then some (s.setTask id (wrap (.ended (some v))), []) else none
  | .stopped v => some (s.setTask id (wrap (.ended (some v))), [.reset])
  | .waiting => none
  | .ended _ => none

/-- The end of a launch: the observer subscribes to the changes from now on, and observer and loop
are created. -/
def finishLaunch (s : System) (id : Nat) : Option (System × List Effect) :=
  let observer := s.slots.length
  let loop := observer + 1
  (s.poller .retain).map fun (s, effects) =>
    let s := s.addTask (.observer s.cell.subscribe .watching)
    let s := s.addTask (.loop s.settings false .spawned)
    (s.setTask id (.launched observer loop), effects ++ [.spawned observer, .spawned loop])

/-- Gives up the observer's handle on the poller. -/
def endObserver (s : System) (id : Nat) (sub : Install.Subscription) :
    Option (System × List Effect) :=
  (s.poller .release).map fun (s, effects) => (s.setTask id (.observer sub .ended), effects)

/-- The next piece of an observer. -/
def stepObserver (s : System) (id : Nat) (sub : Install.Subscription) :
    Observer → Option (System × List Effect)
  | .watching =>
    match s.cell.look sub with
    | .changed v sub => some (s.setTask id (.observer sub (.acting v)), [])
    | .pending => none
    | .closed => s.endObserver id sub
  | .acting .install => s.beginStart id fun call => .observer sub (.starting call)
  | .acting .uninstall => s.stopPoller id (.observer sub .stopped)
  | .starting call =>
    if s.callIsOver call then some (s.setTask id (.observer sub .watching), []) else none
  | .stopped => some (s.setTask id (.observer sub .watching), [.reset])
  | .ended => none

/-- A check that begins more than this late moves the checks after it. -/
def lateness : Duration := .ofMillis 5

/-- The instant of the check after one that was due at `due` and begins at `now`. -/
def nextCheck (due now : Nat) (period : Duration) : Nat :=
  if due + lateness.nanos < now then now + period.nanos else due + period.nanos

/-- The next piece of a loop. -/
def stepLoop (s : System) (id : Nat) (settings : Install.Settings) (halting : Bool) :
    Loop → Option (System × List Effect)
  | .spawned =>
    let first := s.polling.now + settings.period.nanos
    some (s.setTask id (.loop settings halting (.waiting first)), [])
  | .waiting next =>
    if next ≤ s.polling.now then
      let later := nextCheck next s.polling.now settings.period
      some (s.setTask id (.loop settings halting (.asking later)), [.request id settings.endpoint])
    else none
  | .answered next reply =>
    let (s, outcome, effects) := s.applyReply settings.endpoint reply
    some (s.setTask id (.loop settings halting (.waiting next)),
      effects ++ [.note (.checked outcome)])
  | .asking _ => none
  | .ended => none

/-- A loop that was asked to end notices it between two checks, and gives up its handle on the
status. -/
def haltLoop (s : System) (id : Nat) : Option System :=
  match s.task? id with
  | some (.loop settings true (.waiting _)) =>
    some { s.setTask id (.loop settings true .ended) with cell := s.cell.release }
  | _ => none

/-- The next piece of a single check. -/
def stepCheck (s : System) (id : Nat) : Query Install.Outcome → Option (System × List Effect)
  | .ready => some (s.setTask id (.check .waiting), [.request id s.settings.endpoint])
  | .answered reply =>
    let (s, outcome, effects) := s.applyReply s.settings.endpoint reply
    some (s.setTask id (.check (.ended outcome)), effects)
  | .waiting => none
  | .ended _ => none

/-- The answer in a reply. -/
def answer : Reply → Answer
  | .failure message => .error message
  | .body text => .ok (Install.reported text)

/-- The next piece of a single question. -/
def stepFetch (s : System) (id : Nat) : Query Answer → Option (System × List Effect)
  | .ready => some (s.setTask id (.fetch .waiting), [.request id s.settings.endpoint])
  | .answered reply => some (s.setTask id (.fetch (.ended (answer reply))), [])
  | .waiting => none
  | .ended _ => none

/-- Asks a loop to end. -/
def askToEnd (s : System) (loop : Nat) : Option (System × List Effect) :=
  match s.task? loop with
  | some (.loop settings _ phase) =>
    some (s.setTask loop (.loop settings true phase), [.told loop])
  | _ => none

/-- Has the loop ended? -/
def loopHasEnded (s : System) (loop : Nat) : Bool :=
  match s.task? loop with
  | some (.loop _ _ .ended) => true
  | _ => false

/-- Tells the observer to end, and with it the poller's task it waits for. -/
def abortObserver (s : System) (observer : Nat) : System × List Effect :=
  let marked := s.markAborted observer
  match (s.task? observer).bind (·.call?) with
  | some call =>
    match marked.poller (.abort call) with
    | some (s, effects) => (s, .told observer :: effects)
    | none => (marked, [.told observer])
  | none => (marked, [.told observer])

/-- Gives up the handles of a launched watch. -/
def releaseHandles (s : System) : Option (System × List Effect) :=
  (s.poller .release).map fun (s, effects) => ({ s with cell := s.cell.release }, effects)

/-- The next piece of a shutdown. -/
def stepShutdown (s : System) (id observer loop : Nat) :
    Shutdown → Option (System × List Effect)
  | .signalling =>
    (s.askToEnd loop).map fun (s, effects) =>
      (s.setTask id (.shutdown observer loop .joining), effects)
  | .joining =>
    if s.loopHasEnded loop then some (s.setTask id (.shutdown observer loop .aborting), [])
    else none
  | .aborting =>
    let (s, effects) := s.abortObserver observer
    some (s.setTask id (.shutdown observer loop .stopping), effects)
  | .stopping => s.stopPoller id (.shutdown observer loop .releasing)
  | .releasing =>
    s.releaseHandles.map fun (s, effects) =>
      (s.setTask id (.shutdown observer loop .ended), effects)
  | .ended => none

/-- The next piece of a task. -/
def stepTask (s : System) (id : Nat) : Task → Option (System × List Effect)
  | .boot phase => s.stepBoot id .boot phase
  | .launch (.ended _) => s.finishLaunch id
  | .launch phase => s.stepBoot id .launch phase
  | .observer sub phase => s.stepObserver id sub phase
  | .loop settings halting phase => s.stepLoop id settings halting phase
  | .check q => s.stepCheck id q
  | .fetch q => s.stepFetch id q
  | .shutdown observer loop phase => s.stepShutdown id observer loop phase
  | .launched .. => none
  | .gone => none

/-- Does the task wait for something, or has it not begun? -/
def isSuspended (s : System) : Task → Bool
  | .boot b | .launch b =>
    match b with
    | .ready | .waiting | .answered _ => true
    | .starting _ call => s.callIsSuspended call
    | _ => false
  | .observer _ .watching => true
  | .observer _ (.starting call) => s.callIsSuspended call
  | .loop _ _ (.answered ..) | .loop _ _ (.asking _) => true
  | .loop _ _ .spawned | .loop _ _ (.waiting _) => true
  | .check q =>
    match q with
    | .ended _ => false
    | _ => true
  | .fetch q =>
    match q with
    | .ended _ => false
    | _ => true
  | .shutdown _ _ .signalling | .shutdown _ _ .joining => true
  | _ => false

/-- A task that was told to end takes no step where it is suspended. -/
def step (s : System) (id : Nat) : Option (System × List Effect) :=
  match s.slots[id]? with
  | some slot =>
    if slot.aborted && s.isSuspended slot.task then none else s.stepTask id slot.task
  | none => none

/-- The backend's answer to the request of a task. -/
def deliver (s : System) (id : Nat) (reply : Reply) : Option System :=
  (s.task? id).bind fun t => (t.deliver reply).map fun t => s.setTask id t

/-- Drops the poller's task that a dropped task waits for. -/
def dropCall (s : System) (t : Task) : System × List Effect :=
  match t.call? with
  | some call => (s.poller (.drop call)).getD (s, [])
  | none => (s, [])

/-- Gives up what a dropped task held: the observer its handle on the poller, a launch the handles
of the watch. -/
def releaseOf (s : System) : Task → Option (System × List Effect)
  | .observer .. => s.poller .release
  | .launch _ =>
    (s.releaseHandles).map fun (s, effects) => ({ s with cell := s.cell.release }, effects)
  | _ => some (s, [])

/-- Drops a suspended task.  Observers are dropped only after they were told to end, and loops
never are. -/
def drop (s : System) (id : Nat) : Option (System × List Effect) :=
  match s.slots[id]? with
  | some slot =>
    let droppable := match slot.task with
      | .observer .. => slot.aborted
      | .loop .. => false
      | .shutdown .. => false
      | _ => true
    if droppable && s.isSuspended slot.task then
      let (s, effects) := s.dropCall slot.task
      (s.releaseOf slot.task).map fun (s, more) => (s.setTask id .gone, effects ++ more)
    else none
  | none => none

/-- One transition: the new system and what it lets the outside see, or nothing if the event is
not possible. -/
def apply (s : System) : Event → Option (System × List Effect)
  | .poller e => s.poller e
  | .set v => if 0 < s.cell.handles then some (s.setStatus v) else none
  | .boot => some (s.addTask (.boot .ready), [])
  | .launch => some (s.addTask (.launch .ready), [])
  | .check => some (s.addTask (.check .ready), [])
  | .fetch => some (s.addTask (.fetch .ready), [])
  | .spawnLoop =>
    let loop := s.slots.length
    some ({ s.addTask (.loop s.settings false .spawned) with cell := s.cell.retain },
      [.spawned loop])
  | .step id => s.step id
  | .halt id => (s.haltLoop id).map fun s => (s, [])
  | .deliver id reply => (s.deliver id reply).map fun s => (s, [])
  | .drop id => s.drop id
  | .askToEnd loop => s.askToEnd loop
  | .dropHandle loop => do
    let (s, effects) ← s.askToEnd loop
    let (s, more) ← s.releaseHandles
    return (s, effects ++ more)
  | .shutdown observer loop => some (s.addTask (.shutdown observer loop .signalling), [])
  | .retainStatus => some ({ s with cell := s.cell.retain }, [])
  | .releaseStatus => some ({ s with cell := s.cell.release }, [])

/-- A run: all events one after the other, with everything that the outside sees. -/
def run (s : System) : List Event → Option (System × List Effect)
  | [] => some (s, [])
  | e :: rest => do
    let (s, seen) ← s.apply e
    let (s, later) ← s.run rest
    return (s, seen ++ later)

end System

end AlarmMonitor.Watch
