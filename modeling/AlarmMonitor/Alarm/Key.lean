import AlarmMonitor.Alarm.Record

/-!
# Keys of alarms

Two records with the same key are the same alarm.  The key is the record's `id`; without one it is
made of time and message, and without these the whole record stands for itself.  The compact text
of a value lists members in the order of their names, so the order in which the backend wrote them
does not matter.
-/

set_option autoImplicit false

namespace AlarmMonitor.Alarm

/-- The key of an alarm. -/
abbrev Key := String

/-- The three forms of a key. -/
inductive KeyForm where
  | id (text : String)
  | stamped (time message : String)
  | whole (text : String)
  deriving DecidableEq, Repr

namespace KeyForm

/-- The key of this form. -/
def key : KeyForm → Key
  | .id text => text
  | .stamped time message => time ++ "|" ++ message
  | .whole text => text

end KeyForm

namespace Record

/-- The form of the key of a record. -/
def keyForm (r : Record) : KeyForm :=
  match r.field "id" with
  | some v => .id (plainText v)
  | none =>
    match r.field "timestamp", r.message with
    | some time, some message => .stamped (plainText time) (plainText message)
    | _, _ => .whole r.value.text

/-- The key of a record. -/
def key (r : Record) : Key := r.keyForm.key

end Record

end AlarmMonitor.Alarm
