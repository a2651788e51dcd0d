import AlarmMonitor.Json.Printer
import AlarmMonitor.Json.Reader

/-!
# Alarm records

A record is any JSON value; what it says is read from a few members if it is an object.  A response
body carries its records either as an array or as the member `data` of an object.
-/

set_option autoImplicit false

namespace AlarmMonitor.Alarm

open AlarmMonitor.Json

/-- One alarm as the backend sent it. -/
structure Record where
  value : Value
  deriving Inhabited

/-- The member of an object that carries the records. -/
def dataField : String := "data"

/-- What is put behind the message of an alarm unless configured otherwise. -/
def defaultHint : String := " See the event trigger tasks for details."

/-- The text of a value inside a key or a message: a string stands for itself, any other value
for its compact text. -/
def plainText : Value → String
  | .string s => s
  | v => v.text

namespace Record

/-- A member of the record; one that is null counts as absent, and a record that is no object has
none. -/
def field (r : Record) (name : String) : Option Value :=
  (r.value.member? name).filter fun v => !v.isNull

/-- The message of a record: the member `message`, or else `msg`. -/
def message (r : Record) : Option Value := (r.field "message").or (r.field "msg")

/-- The first of `message` and `msg` whose text is not empty. -/
def shownMessage (r : Record) : Option String :=
  ([r.field "message", r.field "msg"].filterMap fun v => v.map plainText).find? fun s => s ≠ ""

/-- The text in which an alarm is shown: a string as it is, a message with the hint behind it, and
any other record as its compact text. -/
def render (r : Record) (hint : String) : String :=
  match r.value with
  | .string s => s
  | v =>
    match r.shownMessage with
    | some s => s ++ hint
    | none => v.text

end Record

/-- The records in a decoded body. -/
def extract : Value → List Record
  | .array items => items.map .mk
  | .object members =>
    match Value.lookup dataField members with
    | some (.array items) => items.map .mk
    | _ => []
  | _ => []

/-- The records in a body; a body that is no JSON carries none. -/
def ofBody (body : String) : List Record :=
  match Json.parse body with
  | some v => extract v
  | none => []

end AlarmMonitor.Alarm
