import AlarmMonitor.Simulation.Scheduler

/-!
# Scenarios

A scenario is a world together with what its author holds: the handle on the poller, the watch or
the handle of the running watch, the handle of a loop of checks, a subscription, and calls made in
the background under a name.  `Scenario.perform` carries out one act of the author and then lets
everybody run until everybody waits.
-/

set_option autoImplicit false

namespace AlarmMonitor.Simulation

open AlarmMonitor.Install (Status)

/-- What the author holds of a watch. -/
inductive Stage where
  | absent
  /-- The watch has not been launched. -/
  | idle
  /-- The watch runs with this observer and this loop. -/
  | running (observer loop : Nat)
  deriving DecidableEq, Repr

/-- What the author can do. -/
inductive Act where
  | start (options : Polling.Options) (timeout : Option Nat)
  /-- Starts so many times in succession. -/
  | startMany (count : Nat)
  | spawnStart (name : String) (options : Polling.Options)
  | spawnPoll (name : String)
  | join (name : String)
  | abort (name : String)
  | poll
  | stop
  | clearHistory
  | configure (options : Polling.Options)
  | describe
  | dropPoller
  | advance (ms : Nat)
  | push (endpoint : String) (answer : Answer)
  | boot
  | launch
  | shutDown
  | dropWatch
  | set (values : List Status)
  | check
  | fetch
  | setPeriod (period : Duration)
  | changed
  | spawnLoop
  | stopLoop
  | dropLoop
  | isLoopFinished

/-- What an act finds. -/
inductive Result where
  | nothing
  | flag (b : Bool)
  | flags (bs : List Bool)
  | count (n : Nat)
  | text (s : String)
  | started
  | cancelled
  | aborted
  | stopped
  | pending
  | outcome (o : Polling.Outcome)
  | status (s : Option Status)
  | checked (o : Install.Outcome)
  | fetched (a : Watch.Answer)
  /-- What the act is about is not there. -/
  | noPoller
  | noTask
  | noWatch
  | noHandle
  | noStatus

/-- A world and what its author holds. -/
structure Scenario where
  world : World
  /-- Does the author hold a handle on the poller beside the watch? -/
  holdsPoller : Bool
  /-- Does the author hold a handle on the status beside the watch? -/
  holdsStatus : Bool
  stage : Stage
  /-- The loop of checks whose handle the author holds. -/
  loop : Option Nat
  subscription : Install.Subscription
  /-- The poller's tasks made in the background, under their names. -/
  tasks : List (String × Nat)

namespace Scenario

/-! ## Beginnings -/

/-- A poller alone. -/
def ofPoller (hint : String) (script : Backend.Script Answer) (rules : List Rule) : Scenario :=
  ⟨.new (.new hint .standard default) script rules, true, true, .absent, none, ⟨0⟩, []⟩

/-- Checks of the installation status alone. -/
def ofChecks (settings : Install.Settings) (initial : Status) (script : Backend.Script Answer) :
    Scenario :=
  ⟨.new (.new "" settings initial) script [], true, true, .absent, none, ⟨0⟩, []⟩

/-- A watch that has not been launched.  With `hold`, the author keeps handles of its own on the
poller and on the status, and the sink can reach the poller. -/
def ofWatch (hint : String) (options : Polling.Options) (settings : Install.Settings)
    (initial : Status) (script : Backend.Script Answer) (rules : List Rule)
    (hold resettable : Bool) : Scenario :=
  let w := World.new (.build hint options settings initial) script rules
  let w := if hold then (w.act (.poller .retain)).act .retainStatus else w
  ⟨{ w with reactive := hold, resettable }, hold, hold, .idle, none, ⟨0⟩, []⟩

/-! ## Views -/

/-- The state of the poller, if the author can reach it. -/
def poller? (s : Scenario) : Option Polling.State :=
  if s.holdsPoller || s.stage ≠ .absent then some s.world.system.polling.state else none

/-- The status cell, if the author can reach it. -/
def cell? (s : Scenario) : Option Install.Cell :=
  if s.holdsStatus || s.stage ≠ .absent then some s.world.system.cell else none

/-- Does the task hold a subscription to the status? -/
def isSubscriber : Watch.Task → Bool
  | .observer _ .ended => false
  | .observer .. => true
  | _ => false

/-- The number of subscriptions to the status inside the watch. -/
def subscribers (s : Scenario) : Nat := s.world.system.slots.countP fun slot => isSubscriber slot.task

/-- Forgets what was seen so far, the number of resets apart. -/
def forget (s : Scenario) : Scenario :=
  { s with world := { s.world with shown := [], logged := [], probes := [] } }

/-! ## Acts on the poller -/

/-- The place of the poller's next task. -/
def nextCall (s : Scenario) : Nat := s.world.system.polling.slots.length

/-- The place of the watch's next task. -/
def nextTask (s : Scenario) : Nat := s.world.system.slots.length

/-- Is the poller's task over? -/
def callIsOver (id : Nat) (w : World) : Bool := w.system.callIsOver id

/-- What a call of the poller that is over has found. -/
def callResult (w : World) (id : Nat) : Result :=
  match w.system.polling.task? id with
  | some (.start _) => .started
  | some (.poll (.ended o)) => .outcome o
  | some .gone => .aborted
  | _ => .nothing

/-- Calls the poller and waits for the end of the call. -/
def call (s : Scenario) (e : Polling.Event) (timeout : Option Nat) : Scenario × Result :=
  let id := s.nextCall
  let w := s.world.perform (.poller e)
  match w.await [.poller id] (callIsOver id) (timeout.map (w.now + ·)) with
  | (w, true) => ({ s with world := w }, callResult w id)
  | (w, false) =>
    let w := w.perform (.poller (.drop id))
    ({ s with world := World.run World.patience w (.poller id) }, .cancelled)

/-- Starts the poller so many times, each time when the call before has ended. -/
def callMany (s : Scenario) (count : Nat) : Scenario × Result :=
  (count.repeat (fun s => (s.call (.start .none) none).1) s, .count count)

/-- Gives a call made in the background its name. -/
def nameCall (s : Scenario) (name : String) (id : Nat) : Scenario :=
  { s with tasks := (name, id) :: s.tasks.filter (·.1 ≠ name) }

/-- Calls the poller in the background. -/
def spawnCall (s : Scenario) (name : String) (e : Polling.Event) : Scenario × Result :=
  let id := s.nextCall
  ({ s with world := s.world.perform (.poller e) }.nameCall name id, .nothing)

/-- The task of that name. -/
def named (s : Scenario) (name : String) : Option Nat :=
  (s.tasks.find? (·.1 = name)).map (·.2)

/-- Waits for a call made in the background. -/
def join (s : Scenario) (name : String) : Scenario × Result :=
  match s.named name with
  | none => (s, .noTask)
  | some id =>
    let (w, _) := s.world.await [] (callIsOver id) none
    ({ s with world := w, tasks := s.tasks.filter (·.1 ≠ name) }, callResult w id)

/-- Merges options into the poller's configuration. -/
def configure (s : Scenario) (options : Polling.Options) : Scenario × Result :=
  let changed := (s.world.system.polling.state.configure options).2.1
  ({ s with world := s.world.perform (.poller (.configure options)) }, .flag changed)

/-- An act on the poller, which the author can reach. -/
def performPoller (s : Scenario) : Act → Scenario × Result
  | .start options timeout => s.call (.start options) timeout
  | .startMany count => s.callMany count
  | .spawnStart name options => s.spawnCall name (.start options)
  | .spawnPoll name => s.spawnCall name .poll
  | .poll => s.call .poll none
  | .stop => ({ s with world := s.world.perform (.poller .stop) }, .nothing)
  | .clearHistory => ({ s with world := s.world.perform (.poller .clearHistory) }, .nothing)
  | .configure options => s.configure options
  | .describe => (s, .text s.world.system.polling.describe)
  | _ => (s, .nothing)

/-- Gives up the handle on the poller.  The sink has it no longer either. -/
def dropPoller (s : Scenario) : Scenario :=
  { s with
    world := { s.world.perform (.poller .release) with reactive := false }
    holdsPoller := false }

/-! ## Acts on the watch -/

/-- Begins a task of the watch and waits for its end. -/
def task (s : Scenario) (e : Watch.Event) : Scenario × Option Watch.Task :=
  let id := s.nextTask
  let ended (w : World) : Bool := (w.system.task? id).any World.isOver
  let (w, _) := (s.world.perform e).await [.watch id] ended none
  ({ s with world := w }, w.system.task? id)

/-- Checks the status as at boot. -/
def boot (s : Scenario) : Scenario × Result :=
  match s.task .boot with
  | (s, some (.boot (.ended result))) => (s, .status result)
  | (s, _) => (s, .nothing)

/-- Launches the watch. -/
def launch (s : Scenario) : Scenario × Result :=
  match s.task .launch with
  | (s, some (.launched observer loop)) => ({ s with stage := .running observer loop }, .started)
  | (s, _) => (s, .nothing)

/-- Gives up the watch or its handle. -/
def dropWatch (s : Scenario) : Scenario × Result :=
  match s.stage with
  | .absent => (s, .flag false)
  | .idle =>
    let w := ((s.world.perform (.poller .release)).perform .releaseStatus).perform .releaseStatus
    ({ s with world := w, stage := .absent }, .flag true)
  | .running _ loop =>
    ({ s with world := s.world.perform (.dropHandle loop), stage := .absent }, .flag true)

/-- Sets the status to values one after the other; says which of them changed it. -/
def setAll (w : World) : List Status → World × List Bool
  | [] => (w, [])
  | v :: rest =>
    let changed := (w.system.cell.set v).2
    let (w, later) := setAll (w.perform (.set v)) rest
    (w, changed :: later)

/-- An act on a watch in a certain stage. -/
def performWatch (s : Scenario) : Act → Stage → Scenario × Result
  | .boot, .idle => s.boot
  | .launch, .idle => s.launch
  | .boot, _ => (s, .noWatch)
  | .launch, _ => (s, .noWatch)
  | .shutDown, .running observer loop =>
    let (s, _) := s.task (.shutdown observer loop)
    ({ s with stage := .absent }, .stopped)
  | .shutDown, _ => (s, .noHandle)
  | _, _ => s.dropWatch

/-! ## Acts on the checks -/

/-- One check. -/
def check (s : Scenario) : Scenario × Result :=
  match s.task .check with
  | (s, some (.check (.ended o))) => (s, .checked o)
  | (s, _) => (s, .nothing)

/-- One question that leaves the status alone. -/
def fetch (s : Scenario) : Scenario × Result :=
  match s.task .fetch with
  | (s, some (.fetch (.ended a))) => (s, .fetched a)
  | (s, _) => (s, .nothing)

/-- Waits one millisecond for a transition of the status. -/
def changed (s : Scenario) : Scenario × Result :=
  let look (w : World) := w.system.cell.look s.subscription
  let (w, _) := s.world.await [] (fun w => look w ≠ .pending) (some (s.world.now + 1))
  match look w with
  | .changed v subscription => ({ s with world := w, subscription }, .status (some v))
  | .pending => ({ s with world := w }, .pending)
  | .closed => ({ s with world := w }, .status none)

/-- Asks the loop whose handle is held to end, and gives up the handle. -/
def releaseLoop (s : Scenario) : Scenario :=
  match s.loop with
  | some l => { s with world := s.world.perform (.askToEnd l), loop := none }
  | none => s

/-- Creates a loop of checks; its handle takes the place of the one held before. -/
def spawnLoop (s : Scenario) : Scenario :=
  let id := s.nextTask
  let s := { s with world := s.world.perform .spawnLoop }.releaseLoop
  { s with loop := some id }

/-- Asks the loop to end and waits for it. -/
def stopLoop (s : Scenario) : Scenario × Result :=
  match s.loop with
  | none => (s, .noHandle)
  | some l =>
    let (w, _) := (s.releaseLoop.world).await [] (·.system.loopHasEnded l) none
    ({ s with world := w, loop := none }, .stopped)

/-- Changes the time between two checks of loops to come. -/
def setPeriod (s : Scenario) (period : Duration) : Scenario :=
  let system := s.world.system
  { s with world := { s.world with
      system := { system with settings := system.settings.withPeriod period } } }

/-! ## All acts -/

/-- An act, before the others get their turn. -/
def carryOut (s : Scenario) : Act → Scenario × Result
  | .join name => s.join name
  | .abort name =>
    match s.named name with
    | some id => ({ s with world := s.world.perform (.poller (.abort id)) }, .nothing)
    | none => (s, .noTask)
  | .advance ms => ({ s with world := s.world.pass ms }, .nothing)
  | .push endpoint answer =>
    ({ s with world := { s.world with script := s.world.script.push endpoint answer } }, .nothing)
  | .dropPoller => if s.holdsPoller then (s.dropPoller, .nothing) else (s, .noPoller)
  | .set values =>
    match s.cell? with
    | some _ =>
      let (w, flags) := setAll s.world values
      ({ s with world := w }, .flags flags)
    | none => (s, .noStatus)
  | .check => s.check
  | .fetch => s.fetch
  | .setPeriod period => (s.setPeriod period, .nothing)
  | .changed => s.changed
  | .spawnLoop => (s.spawnLoop, .nothing)
  | .stopLoop => s.stopLoop
  | .dropLoop => (s.releaseLoop, .flag s.loop.isSome)
  | .isLoopFinished =>
    (s, match s.loop with
      | some l => .flag (s.world.system.loopHasEnded l)
      | none => .nothing)
  | .boot => s.performWatch .boot s.stage
  | .launch => s.performWatch .launch s.stage
  | .shutDown => s.performWatch .shutDown s.stage
  | .dropWatch => s.performWatch .dropWatch s.stage
  | act => if s.poller?.isSome then s.performPoller act else (s, .noPoller)

/-- Carries out an act, and lets everybody run until everybody waits. -/
def perform (s : Scenario) (act : Act) : Scenario × Result :=
  let (s, r) := s.carryOut act
  ({ s with world := s.world.settle }, r)

end Scenario

end AlarmMonitor.Simulation
