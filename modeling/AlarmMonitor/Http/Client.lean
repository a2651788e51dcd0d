import AlarmMonitor.Http.Failure
import AlarmMonitor.Http.Url.Reader
import AlarmMonitor.Log
import AlarmMonitor.Text.Utf8
import AlarmMonitor.Time.Duration

/-!
# The client

A client asks one server.  An endpoint is joined to the base of the server with a single slash
between them, unless it is a web address itself.
-/

set_option autoImplicit false

namespace AlarmMonitor.Http

/-- The server asked unless configured otherwise. -/
def defaultBaseUrl : String := "http://localhost:8000"

/-- How long a request may take unless configured otherwise. -/
def defaultTimeout : Duration := .ofMillis 10000

/-- A server and how long it may take to answer. -/
structure Client where
  /-- The base as configured, without slashes at its end. -/
  base : String
  timeout : Duration
  deriving DecidableEq, Repr

namespace Client

/-- A text without slashes at its end. -/
def trimEnd (cs : List Char) : List Char := (cs.reverse.dropWhile (· == '/')).reverse

/-- Does a text begin as a web address does?  Only small letters count. -/
def isAbsolute (cs : List Char) : Bool :=
  (Text.behind "http://".toList cs).isSome || (Text.behind "https://".toList cs).isSome

/-- Base and endpoint with one slash between them, or the endpoint if it is a web address. -/
def join (base endpoint : String) : String :=
  if isAbsolute endpoint.toList then endpoint
  else String.ofList (trimEnd base.toList ++ '/' :: endpoint.toList.dropWhile (· == '/'))

/-- The URL of an endpoint. -/
def urlFor (c : Client) (endpoint : String) : String := join c.base endpoint

/-- A client for a server.  Its base must be a web address. -/
def build (base : Option String) (timeout : Option Duration) : Except Failure Client :=
  let base := base.getD defaultBaseUrl
  match Url.read base with
  | .error f => .error (.invalidUrl (base ++ ": " ++ f.message))
  | .ok (.foreign scheme) => .error (.invalidUrl (base ++ ": unsupported scheme " ++ scheme))
  | .ok (.web _) =>
    .ok ⟨String.ofList (trimEnd base.toList), timeout.getD defaultTimeout⟩

/-! ## Requests -/

/-- Do the bytes that a text stands for encode characters? -/
def isReadable (cs : List Char) : Bool :=
  let bytes := Percent.decode cs
  Text.encode (Text.decode bytes) == bytes

/-- The address as it is asked for: user name and password, if they can be read, go into a header
of the request. -/
def withoutUser (u : Url) : Url :=
  if isReadable u.username && (!u.username.isEmpty || isReadable u.password) then
    { u with username := [], password := [] }
  else u

/-- The longest address that can be asked for, in bytes. -/
def maxLength : Nat := 65534

/-- May the character stand in the host of a request? -/
def isHostChar (c : Char) : Bool := !(['\x22', '\x60', '\x7b', '\x7d'].contains c)

/-- Can this address be asked for? -/
def isSendable (u : Url) : Bool :=
  u.text.utf8ByteSize ≤ maxLength && u.host.text.toList.all isHostChar

/-- The mention of an address in a message. -/
def mention (u : Url) : String := " for url (" ++ u.text ++ ")"

/-- The address that a request for an endpoint goes to. -/
def target (c : Client) (endpoint : String) : Except Failure Url :=
  match Url.read (c.urlFor endpoint) with
  | .ok (.web u) =>
    let u := withoutUser u
    if isSendable u then .ok u else .error (.invalidUrl ("builder error" ++ mention u))
  | _ => .error (.invalidUrl "builder error")

/-- What a request for an endpoint comes to if no server can be reached; `expired` says that the
time for it is over before it begins. -/
def unreachable (c : Client) (endpoint : String) (expired : Bool) : Failure :=
  match c.target endpoint with
  | .error f => f
  | .ok u =>
    if expired then .timeout else .connection ("error sending request" ++ mention u)

/-- The port of an address. -/
def portOf (u : Url) : Nat := u.port.getD u.scheme.port

/-- The log lines of a new connection.  Only a plain connection to a number can be tried at
once. -/
def connectLines (u : Url) : List Log.Line :=
  ⟨.debug, Log.connectionTarget,
    "starting new connection: " ++ u.scheme.name ++ "://" ++ u.userText ++ u.host.text ++
      Url.portText u.port ++ "/"⟩ ::
  match u.scheme, u.host with
  | .https, _ => []
  | _, .domain _ => []
  | _, _ => [⟨.debug, Log.addressTarget,
      "connecting to " ++ u.host.text ++ ":" ++ toString (portOf u)⟩]

end Client

end AlarmMonitor.Http
