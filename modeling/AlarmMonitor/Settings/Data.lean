import AlarmMonitor.Number.Binary

/-!
# Configuration data

The data that a configuration file holds, whatever its format.  The order of the members of a
table is the order in which they were written; a later member of the same name takes the place of
an earlier one.
-/

set_option autoImplicit false

namespace AlarmMonitor.Settings

open AlarmMonitor.Number (Binary)

inductive Data where
  | nothing
  | bool (b : Bool)
  | integer (i : Int)
  | real (r : Binary)
  | text (s : String)
  | array (items : List Data)
  | table (members : List (String × Data))
  deriving Repr, Inhabited

end AlarmMonitor.Settings
