/-!
# Texts that are no URL
-/

set_option autoImplicit false

namespace AlarmMonitor.Http.Url

/-- Why a text is no URL. -/
inductive Fault where
  /-- No scheme stands in front. -/
  | relative
  /-- A host is required, and none is given. -/
  | emptyHost
  /-- The host is no domain name. -/
  | badDomain
  /-- The port is no number below 65536. -/
  | badPort
  /-- The host ends in a number and is no IPv4 address. -/
  | badIPv4
  /-- The host in brackets is no IPv6 address. -/
  | badIPv6
  /-- The host of a foreign scheme holds a forbidden character. -/
  | badCharacter
  deriving DecidableEq, Repr, Inhabited

/-- The message of a fault. -/
def Fault.message : Fault → String
  | .relative => "relative URL without a base"
  | .emptyHost => "empty host"
  | .badDomain => "invalid international domain name"
  | .badPort => "invalid port number"
  | .badIPv4 => "invalid IPv4 address"
  | .badIPv6 => "invalid IPv6 address"
  | .badCharacter => "invalid domain character"

end AlarmMonitor.Http.Url
