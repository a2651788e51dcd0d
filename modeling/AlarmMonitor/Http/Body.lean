import AlarmMonitor.Http.Failure
import AlarmMonitor.Json.Reader

/-!
# Response bodies
-/

set_option autoImplicit false

namespace AlarmMonitor.Http

/-- The failure that a body is if it should be JSON and is not. -/
def bodyFailure? (text : String) : Option Failure :=
  if (Json.parse text).isSome then none else some (.parse "error decoding response body")

theorem bodyFailure?_eq_none_iff (text : String) :
    bodyFailure? text = none ↔ (Json.parse text).isSome := by
  simp only [bodyFailure?]
  split <;> simp_all

end AlarmMonitor.Http
