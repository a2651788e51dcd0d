import AlarmMonitor.Settings.Tree
import AlarmMonitor.Text.Split

/-!
# The environment as a source

A variable whose name begins with the label sets the key that follows.  Names are compared and
used in lower case.  The text of a variable is taken as a boolean, an integer or a real if it reads
as one, in this order, and otherwise as it is.
-/

set_option autoImplicit false

namespace AlarmMonitor.Settings

open AlarmMonitor.Number (Binary)

/-- The label of the variables. -/
def environmentLabel : String := "ALARMWATCH"

/-- The name of the environment in messages. -/
def environmentName : String := "the environment"

namespace Environment

/-- A variable: its name and its text. -/
abbrev Variable := String × String

/-- A text in lower case.  The keys of settings have ASCII letters only, so the case of other
letters makes no difference to them. -/
def lower (s : String) : List Char := s.toList.map Char.toLower

/-- What a name must begin with. -/
def stem : List Char := lower environmentLabel ++ ['_']

/-- The key that a name sets. -/
def keyOf (name : String) : Option String := (Text.behind stem (lower name)).map String.ofList

/-- The integer of 64 bits that a text writes, with an optional sign. -/
def readInteger (cs : List Char) : Option Int :=
  let (negative, cs) := Binary.splitSign cs
  let (ds, rest) := Number.spanDigits cs
  let n := Number.ofDigits ds
  if ds.isEmpty || !rest.isEmpty then none
  else if negative then (if Number.signedBound < n then none else some (-(n : Int)))
  else if Number.signedBound ≤ n then none
  else some n

/-- The scalar that a text stands for. -/
def scalarOf (s : String) : Scalar :=
  if lower s = "true".toList then .bool true
  else if lower s = "false".toList then .bool false
  else match readInteger s.toList with
    | some i => .integer i
    | none =>
      match Binary.read s.toList with
      | some r => .real r
      | none => .text s

/-- The values that the variables set, under their keys. -/
def values (vars : List Variable) : List (String × Tree) :=
  vars.filterMap fun (name, s) =>
    (keyOf name).map fun key => (key, .scalar (some environmentName) (scalarOf s))

end Environment

end AlarmMonitor.Settings
