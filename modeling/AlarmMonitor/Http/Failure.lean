import AlarmMonitor.Text.Quoted

/-!
# Failures of a request
-/

set_option autoImplicit false

namespace AlarmMonitor.Http

/-- Why a request has no body. -/
inductive Failure where
  /-- The request failed, or the server refused it. -/
  | http (text : String)
  /-- The body could not be read. -/
  | parse (text : String)
  /-- No connection was made. -/
  | connection (text : String)
  /-- The answer took too long. -/
  | timeout
  /-- Base and endpoint make no URL. -/
  | invalidUrl (text : String)
  deriving DecidableEq, Repr, Inhabited

namespace Failure

/-- The name of the kind of a failure. -/
def name : Failure → String
  | .http _ => "Http"
  | .parse _ => "Parse"
  | .connection _ => "Connection"
  | .timeout => "Timeout"
  | .invalidUrl _ => "InvalidUrl"

/-- The message of a failure. -/
def message : Failure → String
  | .http text => "HTTP request failed: " ++ text
  | .parse text => "Failed to parse response: " ++ text
  | .connection text => "Connection failed: " ++ text
  | .timeout => "Request timed out"
  | .invalidUrl text => "Invalid URL: " ++ text

/-- The failure in a diagnostic. -/
def describe : Failure → String
  | .timeout => "Timeout"
  | .http text => "Http(" ++ Text.quoted text ++ ")"
  | .parse text => "Parse(" ++ Text.quoted text ++ ")"
  | .connection text => "Connection(" ++ Text.quoted text ++ ")"
  | .invalidUrl text => "InvalidUrl(" ++ Text.quoted text ++ ")"

end Failure

end AlarmMonitor.Http
