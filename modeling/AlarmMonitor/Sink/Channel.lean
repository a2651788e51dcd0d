/-!
# A sink that queues

Texts wait in a queue until they are received.  Once nobody can receive them any more, they are
dropped.
-/

set_option autoImplicit false

namespace AlarmMonitor.Sink

/-- A queue of texts with its receiving end. -/
structure Channel where
  /-- Texts that have not been received, the oldest first. -/
  waiting : List String
  /-- Is there a receiver? -/
  connected : Bool
  deriving DecidableEq, Repr

namespace Channel

/-- An empty queue with a receiver. -/
def new : Channel := ⟨[], true⟩

instance : Inhabited Channel := ⟨new⟩

/-- Queues a text for the receiver, if there is one. -/
def notify (c : Channel) (text : String) : Channel :=
  if c.connected then { c with waiting := c.waiting ++ [text] } else c

/-- Receives the oldest text. -/
def receive (c : Channel) : Channel × Option String :=
  ({ c with waiting := c.waiting.drop 1 }, c.waiting.head?)

/-- The receiver goes away, and with it what it has not received. -/
def disconnect (_ : Channel) : Channel := ⟨[], false⟩

end Channel

end AlarmMonitor.Sink
