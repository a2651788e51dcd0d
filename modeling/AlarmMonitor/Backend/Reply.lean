/-!
# Replies of the backend
-/

set_option autoImplicit false

namespace AlarmMonitor.Backend

/-- What the backend answers: the text of a body, or the text of a failure. -/
inductive Reply where
  | body (text : String)
  | failure (message : String)
  deriving DecidableEq, Repr, Inhabited

end AlarmMonitor.Backend
