import AlarmMonitor.Install.Cell

/-!
# Named handles and subscriptions

A board is one status cell with the handles and the subscriptions that its users hold, each under
a name.
-/

set_option autoImplicit false

namespace AlarmMonitor.Simulation

open AlarmMonitor.Install (Cell Status Subscription Look)

/-- A cell and who holds it. -/
structure Board where
  cell : Cell
  handles : List String
  subscriptions : List (String × Subscription)
  deriving Repr

namespace Board

/-- A board with one handle. -/
def new (initial : Status) (handle : String) : Board := ⟨.new initial, [handle], []⟩

/-- Does the handle exist? -/
def has (b : Board) (handle : String) : Bool := b.handles.contains handle

/-- The subscription of that name. -/
def subscription? (b : Board) (name : String) : Option Subscription :=
  (b.subscriptions.find? (·.1 = name)).map (·.2)

/-- Drops a handle; says whether it existed. -/
def drop (b : Board) (handle : String) : Board × Bool :=
  if b.has handle then
    ({ b with cell := b.cell.release, handles := b.handles.filter (· ≠ handle) }, true)
  else (b, false)

/-- Clones a handle; the clone takes the place of a handle of the same name. -/
def clone (b : Board) (handle : String) : Board :=
  let b := ({ b with cell := b.cell.retain }.drop handle).1
  { b with handles := b.handles ++ [handle] }

/-- Drops a subscription; says whether it existed. -/
def unsubscribe (b : Board) (name : String) : Board × Bool :=
  ({ b with subscriptions := b.subscriptions.filter (·.1 ≠ name) }, (b.subscription? name).isSome)

/-- Subscribes to the changes from now on. -/
def subscribe (b : Board) (name : String) : Board :=
  let b := (b.unsubscribe name).1
  { b with subscriptions := b.subscriptions ++ [(name, b.cell.subscribe)] }

/-- Sets the status to values one after the other; says which of them changed it. -/
def set (b : Board) : List Status → Board × List Bool
  | [] => (b, [])
  | v :: rest =>
    let (cell, changed) := b.cell.set v
    let (b, later) := { b with cell }.set rest
    (b, changed :: later)

/-- A subscriber looks for a transition. -/
def look (b : Board) (name : String) (sub : Subscription) : Board × Look :=
  match b.cell.look sub with
  | .changed v sub =>
    ({ b with subscriptions := b.subscriptions.map fun p => if p.1 = name then (name, sub) else p },
      .changed v sub)
  | other => (b, other)

end Board

end AlarmMonitor.Simulation
