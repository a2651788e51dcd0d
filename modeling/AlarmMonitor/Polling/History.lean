import Std.Data.TreeSet
import AlarmMonitor.Alarm.Key

/-!
# The history of alarms already shown

A bounded set of keys that remembers in which order they came.  The set answers whether a key is
known, the order says which keys are the oldest; every operation keeps the two in step.  A history
that has grown beyond its high-water mark is pruned to its newest keys.  A key that is met again
keeps its age.
-/

set_option autoImplicit false

namespace AlarmMonitor.Polling

open AlarmMonitor.Alarm (Key Record)

/-- The number of keys beyond which a history is pruned. -/
def highWaterMark : Nat := 2000

/-- The number of keys that pruning keeps. -/
def retainAfterPrune : Nat := 1000

/-- The keys of the alarms already shown. -/
structure History where
  /-- The known keys. -/
  index : Std.TreeSet Key
  /-- The same keys, the newest first. -/
  recent : List Key
  highWater : Nat
  retain : Nat
  /-- Pruning never keeps more keys than there are. -/
  retain_le : retain ≤ highWater

namespace History

/-- An empty history with these bounds; the number of keys kept is capped at the mark. -/
def withBounds (highWater retain : Nat) : History :=
  ⟨∅, [], highWater, min retain highWater, Nat.min_le_right _ _⟩

/-- An empty history with the usual bounds. -/
def empty : History := withBounds highWaterMark retainAfterPrune

instance : Inhabited History := ⟨empty⟩

/-- The known keys, the oldest first. -/
def toList (h : History) : List Key := h.recent.reverse

def size (h : History) : Nat := h.recent.length

def isEmpty (h : History) : Bool := h.recent.isEmpty

def contains (h : History) (k : Key) : Bool := h.index.contains k

/-- The oldest key. -/
def oldest? (h : History) : Option Key := h.recent.getLast?

/-- The newest key. -/
def newest? (h : History) : Option Key := h.recent.head?

/-- Adds a key that is not known yet; says whether it was added. -/
def insert (h : History) (k : Key) : History × Bool :=
  if h.index.contains k then (h, false)
  else ({ h with index := h.index.insert k, recent := k :: h.recent }, true)

/-- Forgets all keys. -/
def clear (h : History) : History := { h with index := ∅, recent := [] }

/-- Forgets the oldest keys if there are more than the mark allows; returns their number. -/
def prune (h : History) : History × Nat :=
  if h.size ≤ h.highWater then (h, 0)
  else
    let evicted := h.recent.drop h.retain
    ({ h with
        index := evicted.foldl (fun t k => t.erase k) h.index
        recent := h.recent.take h.retain }, evicted.length)

/-- Adds the keys of records one after the other; returns the records whose keys were new. -/
def insertRecords (h : History) : List Record → History × List Record
  | [] => (h, [])
  | r :: rest =>
    let (h, fresh) := h.insert r.key
    let (h, kept) := h.insertRecords rest
    (h, if fresh then r :: kept else kept)

end History

end AlarmMonitor.Polling
