import AlarmMonitor.Backend.Script
import AlarmMonitor.Watch.System

/-!
# A watch among scripted surroundings

`World` is a watch, the script of its backend, the replies that are on their way, and a record of
what the outside has seen.  An event is applied together with what it asks of the surroundings: a
request takes its answer from the script, and a text that is shown may make the sink call back
into the poller.
-/

set_option autoImplicit false

namespace AlarmMonitor.Simulation

open AlarmMonitor.Backend (Reply Script)

/-- A scripted answer: the reply, and the milliseconds until it arrives. -/
structure Answer where
  reply : Reply
  delay : Nat
  deriving DecidableEq, Repr

/-- A task that can run: one of the poller's or one of the watch's. -/
inductive Runner where
  | poller (task : Nat)
  | watch (task : Nat)
  deriving DecidableEq, Repr

namespace Runner

/-- The event of one piece of a task. -/
def stepEvent : Runner → Watch.Event
  | .poller id => .poller (.step id)
  | .watch id => .step id

/-- The event in which a task gets its reply. -/
def deliverEvent (reply : Reply) : Runner → Watch.Event
  | .poller id => .poller (.deliver id reply)
  | .watch id => .deliver id reply

/-- The event in which a task is dropped. -/
def dropEvent : Runner → Watch.Event
  | .poller id => .poller (.drop id)
  | .watch id => .drop id

end Runner

/-- A reply on its way, and the millisecond at which it is due. -/
structure Arrival where
  due : Nat
  runner : Runner
  reply : Reply
  deriving DecidableEq, Repr

/-- What a sink does when it shows a text. -/
inductive Reaction where
  | stop
  | clearHistory
  | configure (options : Polling.Options)
  /-- It looks at the poller. -/
  | probe
  deriving DecidableEq, Repr

/-- A reaction to every text that contains another. -/
structure Rule where
  contained : String
  reaction : Reaction
  deriving DecidableEq, Repr

/-- A watch, its surroundings, and what was seen of it. -/
structure World where
  system : Watch.System
  script : Script Answer
  /-- Replies on their way, in the order of their requests. -/
  arrivals : List Arrival
  /-- Tasks that are ready to run, the next one first. -/
  queue : List Runner
  /-- Tasks that are waited for; they run before all others. -/
  foreground : List Runner
  rules : List Rule
  /-- Can the sink reach the poller? -/
  reactive : Bool
  /-- Is there somebody to reset the client? -/
  resettable : Bool
  /-- Texts shown, the latest first. -/
  shown : List String
  /-- Lines logged, the latest first. -/
  logged : List Log.Line
  /-- What the sink saw when it looked, the latest first: is the poller running, and how many
  alarms does it remember? -/
  probes : List (Bool × Nat)
  resets : Nat

namespace World

/-- A world in which nothing has happened. -/
def new (system : Watch.System) (script : Script Answer) (rules : List Rule) : World :=
  ⟨system, script, [], [], [], rules, true, true, [], [], [], 0⟩

/-- The whole milliseconds of the clock. -/
def now (w : World) : Nat := Duration.millis ⟨w.system.polling.now⟩

def log (w : World) (l : Log.Line) : World := { w with logged := l :: w.logged }

/-- Takes note of an effect that asks nothing of the surroundings. -/
def record (w : World) : Watch.Effect → World
  | .poller (.note n) => w.log n.line
  | .note n => w.log n.line
  | .reset => if w.resettable then { w with resets := w.resets + 1 } else w
  | _ => w

/-- Applies an event whose effects ask nothing of the surroundings. -/
def act (w : World) (e : Watch.Event) : World :=
  match w.system.apply e with
  | some (system, effects) => effects.foldl record { w with system }
  | none => w

/-- What the sink does for one rule. -/
def react (w : World) : Reaction → World
  | .stop => w.act (.poller .stop)
  | .clearHistory => w.act (.poller .clearHistory)
  | .configure options => w.act (.poller (.configure options))
  | .probe =>
    let s := w.system.polling.state
    { w with probes := (s.running, s.seen.size) :: w.probes }

/-- Does a text contain another? -/
def contains (text part : List Char) : Bool :=
  match text with
  | [] => part.isEmpty
  | _ :: rest => part.isPrefixOf text || contains rest part

/-- The sink shows a text. -/
def display (w : World) (text : String) : World :=
  let w := { w with shown := text :: w.shown }
  if w.reactive then
    w.rules.foldl (fun w r =>
      if contains text.toList r.contained.toList then w.react r.reaction else w) w
  else w

/-- The backend is asked.  An answer without delay is there at once. -/
def request (w : World) (runner : Runner) (endpoint : String) : World :=
  let (script, answer) := w.script.take endpoint
  let answer := answer.getD ⟨.refused endpoint, 0⟩
  let w := { w with script }
  if answer.delay = 0 then w.act (runner.deliverEvent answer.reply)
  else
    { w with arrivals := w.arrivals ++ [⟨w.now + answer.delay, runner, answer.reply⟩] }

/-- What an effect asks of the surroundings. -/
def respond (w : World) : Watch.Effect → World
  | .poller (.request task endpoint) => w.request (.poller task) endpoint
  | .request task endpoint => w.request (.watch task) endpoint
  | .poller (.show text) => w.display text
  | e => w.record e

/-- Applies an event, if it is possible, together with the response of the surroundings. -/
def apply (w : World) (e : Watch.Event) : Option World :=
  (w.system.apply e).map fun (system, effects) => effects.foldl respond { w with system }

/-- Applies an event if it is possible. -/
def perform (w : World) (e : Watch.Event) : World := (w.apply e).getD w

end World

end AlarmMonitor.Simulation
