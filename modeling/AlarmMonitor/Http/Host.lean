import AlarmMonitor.Http.Address
import AlarmMonitor.Http.Domain
import AlarmMonitor.Http.Url.Fault

/-!
# Hosts

A host is an IPv6 address in brackets, an IPv4 address, or a domain name.  A name whose last part
is a number is never a domain name.
-/

set_option autoImplicit false

namespace AlarmMonitor.Http

/-- Where a request goes. -/
inductive Host where
  /-- A name, in ASCII. -/
  | domain (name : String)
  /-- A number below 2³². -/
  | ipv4 (address : Nat)
  /-- Eight numbers below 2¹⁶. -/
  | ipv6 (groups : List Nat)
  deriving DecidableEq, Repr, Inhabited

namespace Host

/-- A host as it stands in a URL. -/
def text : Host → String
  | domain name => name
  | ipv4 address => Address.ipv4Text address
  | ipv6 groups => "[" ++ Address.ipv6Text groups ++ "]"

/-- The text between brackets, if an opening one stands in front; the closing one may be
missing. -/
def bracketed? : List Char → Option (Option (List Char))
  | '[' :: cs => some (if cs.getLast? = some ']' then some cs.dropLast else none)
  | _ => none

/-- Reads an IPv6 address that stands between brackets. -/
def readIPv6 (inside : Option (List Char)) : Except Url.Fault Host :=
  match inside.bind Address.ipv6? with
  | some groups => .ok (.ipv6 groups)
  | none => .error .badIPv6

/-- Reads a domain name or an IPv4 address that is written like one. -/
def readName (cs : List Char) : Except Url.Fault Host :=
  match Domain.ofBytes (Percent.decode cs) with
  | none => .error .badDomain
  | some name =>
    if name.isEmpty then .error .emptyHost
    else if Address.isNumeric name then
      match Address.ipv4? name with
      | some address => .ok (.ipv4 address)
      | none => .error .badIPv4
    else .ok (.domain (String.ofList name))

/-- Reads the host of a URL with a domain name. -/
def read (cs : List Char) : Except Url.Fault Host :=
  match bracketed? cs with
  | some inside => readIPv6 inside
  | none => readName cs

/-- Characters that no host of a foreign scheme holds. -/
def isForeignForbidden (c : Char) : Bool :=
  ['\x00', '\t', '\n', '\r', ' ', '#', '/', ':', '<', '>', '?', '@', '[', '\\', ']', '^',
    '|'].contains c

/-- Checks the host of a URL of a foreign scheme. -/
def checkForeign (cs : List Char) : Except Url.Fault Unit :=
  match bracketed? cs with
  | some inside => (readIPv6 inside).map fun _ => ()
  | none => if cs.any isForeignForbidden then .error .badCharacter else .ok ()

end Host

end AlarmMonitor.Http
