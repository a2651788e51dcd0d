import AlarmMonitor.Simulation.World

/-!
# Running a world in virtual time

Tasks take turns: a task runs until it has to wait, and those that are ready meanwhile queue up
behind each other.  The clock stands still while anybody can run; when everybody waits, it jumps
to the next whole millisecond at which something is due.
-/

set_option autoImplicit false

namespace AlarmMonitor.Simulation

namespace World

/-! ## Who can run -/

/-- The poller's task that a task of the watch waits for. -/
def callOf (w : World) (id : Nat) : Option Nat := (w.system.task? id).bind (·.call?)

/-- Was the task told to end? -/
def isTold (w : World) : Runner → Bool
  | .poller id => (w.system.polling.slots[id]?).any (·.aborted)
  | .watch id => (w.system.slots[id]?).any (·.aborted)

/-- What a task may do next, in the order of preference.  A task that was told to end is dropped
where it waits; a task of the watch that waits for the poller's runs that one. -/
def candidates (w : World) (r : Runner) : List Watch.Event :=
  let drop := if w.isTold r then [r.dropEvent] else []
  match r with
  | .poller _ => drop ++ [r.stepEvent]
  | .watch id =>
    drop ++ [.halt id, r.stepEvent] ++
      ((w.callOf id).map fun call => Runner.stepEvent (.poller call)).toList

/-- Can the task do anything? -/
def canRun (w : World) (r : Runner) : Bool :=
  (w.candidates r).any fun e => (w.system.apply e).isSome

/-- Is a task of the watch over? -/
def isOver : Watch.Task → Bool
  | .boot (.ended _) => true
  | .launched .. => true
  | .observer _ .ended => true
  | .loop _ _ .ended => true
  | .check (.ended _) => true
  | .fetch (.ended _) => true
  | .shutdown _ _ .ended => true
  | .gone => true
  | _ => false

/-- The tasks that are not over: the watch's, and those of the poller's that no task of the watch
runs. -/
def live (w : World) : List Runner :=
  let watching := w.system.slots.zipIdx.filterMap fun (s, i) =>
    if isOver s.task then none else some i
  let owned := watching.filterMap w.callOf
  let polling := w.system.polling.slots.zipIdx.filterMap fun (s, i) =>
    if s.task.isFinished || owned.contains i then none else some i
  watching.map .watch ++ polling.map .poller

/-- Puts everybody who can run into the queue. -/
def wake (w : World) : World :=
  let fresh := w.live.filter fun r =>
    !w.queue.contains r && !w.foreground.contains r && w.canRun r
  { w with queue := w.queue ++ fresh }

/-! ## Taking turns -/

/-- One piece of a task: the first possible one.  The rest of a call that is dropped with its
owner is run at once. -/
def runPiece (w : World) (r : Runner) : Option World :=
  let orphan := match r with
    | .poller id => some id
    | .watch id => w.callOf id
  let dropped := w.isTold r && (w.system.apply r.dropEvent).isSome
  (w.candidates r).firstM fun e => (w.apply e).map fun w =>
    match orphan with
    | some call => if dropped then w.perform (.poller (.step call)) else w
    | none => w

/-- More pieces than any task runs at one instant. -/
def patience : Nat := 1000000000

/-- Runs a task until it has to wait. -/
def run : Nat → World → Runner → World
  | 0, w, _ => w
  | fuel + 1, w, r =>
    match w.runPiece r with
    | some w => run fuel w r
    | none => w

/-- Runs the tasks that are waited for. -/
def runForeground (w : World) : World := w.foreground.foldl (run patience) w

/-- Runs everybody until everybody waits. -/
def settleFor : Nat → World → World
  | 0, w => w
  | fuel + 1, w =>
    let w := w.runForeground.wake
    match w.queue with
    | [] => w
    | r :: rest => settleFor fuel (run patience { w with queue := rest } r)

/-- Runs everybody until everybody waits. -/
def settle (w : World) : World := settleFor patience w

/-! ## The clock -/

/-- The millisecond at which a poller's task wakes up. -/
def pollerAlarm (s : Polling.Slot) : Option Nat :=
  match s.task with
  | .timer _ (.sleeping wakeAt) => some (Duration.ticks ⟨wakeAt⟩)
  | _ => none

/-- The millisecond at which a watch's task wakes up. -/
def watchAlarm (s : Watch.Slot) : Option Nat :=
  match s.task with
  | .loop _ _ (.waiting next) => some (Duration.ticks ⟨next⟩)
  | _ => none

/-- The next millisecond at which something is due. -/
def nextInstant (w : World) : Option Nat :=
  ((w.arrivals.map (·.due)) ++ w.system.polling.slots.filterMap pollerAlarm ++
    w.system.slots.filterMap watchAlarm).filter (w.now < ·) |>.min?

/-- Lets the clock jump to a millisecond; replies that are due then arrive. -/
def jump (w : World) (t : Nat) : World :=
  let w := w.perform (.poller (.tick (.ofMillis (t - w.now))))
  let (due, later) := w.arrivals.partition (·.due ≤ t)
  due.foldl (fun w a => w.perform (a.runner.deliverEvent a.reply)) { w with arrivals := later }

/-- Lets the time pass up to a millisecond, with everything that happens until then. -/
def passUntil : Nat → World → Nat → World
  | 0, w, _ => w
  | fuel + 1, w, t =>
    match w.nextInstant with
    | some next =>
      if next ≤ t then passUntil fuel (w.jump next).settle t else (w.jump t).settle
    | none => (w.jump t).settle

/-- Lets so many milliseconds pass. -/
def pass (w : World) (ms : Nat) : World := passUntil (ms + 1) w.settle (w.now + ms)

/-- Waits for a condition, at most until the deadline; says whether it was met.  What is waited
for runs first at every instant, so it wins over a deadline at the same instant, and the deadline
wins over everybody else. -/
def awaitFor (met : World → Bool) (deadline : Option Nat) : Nat → World → World × Bool
  | 0, w => (w, false)
  | fuel + 1, w =>
    let w := w.runForeground
    if met w then (w, true)
    else if deadline.any (· ≤ w.now) then (w, false)
    else
      let w := w.settle
      if met w then (w, true)
      else match w.nextInstant, deadline with
        | some next, some d => awaitFor met deadline fuel (w.jump (min next d))
        | some next, none => awaitFor met deadline fuel (w.jump next)
        | none, some d => awaitFor met deadline fuel (w.jump d)
        | none, none => (w, false)

/-- Waits for tasks, at most until the deadline, and then for nothing any more. -/
def await (w : World) (runners : List Runner) (met : World → Bool) (deadline : Option Nat) :
    World × Bool :=
  let (w, ok) := awaitFor met deadline patience { w with foreground := runners }
  ({ w with foreground := [] }, ok)

end World

end AlarmMonitor.Simulation
