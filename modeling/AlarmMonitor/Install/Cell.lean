import AlarmMonitor.Install.Status

/-!
# A status that can be watched

A cell holds the status and counts its actual changes; a subscription remembers up to which change
it has looked.  So any number of changes between two looks are one transition, which shows the
latest status, and setting the status to what it is already wakes nobody.
-/

set_option autoImplicit false

namespace AlarmMonitor.Install

/-- The shared status. -/
structure Cell where
  value : Status
  /-- The number of changes so far. -/
  version : Nat
  /-- The number of handles through which the status can be set. -/
  handles : Nat
  deriving DecidableEq, Repr

/-- A subscriber's place among the changes of a cell. -/
structure Subscription where
  /-- The number of changes seen. -/
  seen : Nat
  deriving DecidableEq, Repr, Inhabited

/-- What a subscriber finds when it looks for a transition. -/
inductive Look where
  /-- There was a transition; this is the status now. -/
  | changed (value : Status) (subscription : Subscription)
  /-- There was none yet. -/
  | pending
  /-- There was none, and there will be none. -/
  | closed
  deriving DecidableEq, Repr

namespace Cell

/-- A cell with one handle. -/
def new (value : Status) : Cell := ⟨value, 0, 1⟩

instance : Inhabited Cell := ⟨new .uninstall⟩

/-- Sets the status; says whether it changed. -/
def set (c : Cell) (s : Status) : Cell × Bool :=
  if c.value = s then (c, false) else ({ c with value := s, version := c.version + 1 }, true)

/-- A subscription to the changes from now on. -/
def subscribe (c : Cell) : Subscription := ⟨c.version⟩

/-- Looks for a transition that the subscription has not seen.  One that has not been seen is
found even if no handle is left. -/
def look (c : Cell) (sub : Subscription) : Look :=
  if c.version ≠ sub.seen then .changed c.value ⟨c.version⟩
  else if c.handles = 0 then .closed
  else .pending

def retain (c : Cell) : Cell := { c with handles := c.handles + 1 }

def release (c : Cell) : Cell := { c with handles := c.handles - 1 }

end Cell

end AlarmMonitor.Install
