import AlarmMonitor.Http.Host
import AlarmMonitor.Http.Url.Path

/-!
# Web addresses

The parts of an `http` or `https` URL, and the one way to write them.
-/

set_option autoImplicit false

namespace AlarmMonitor.Http

/-- The two ways to speak to a web server. -/
inductive Scheme where
  | http
  | https
  deriving DecidableEq, Repr, Inhabited

namespace Scheme

/-- The name of a scheme. -/
def name : Scheme → String
  | http => "http"
  | https => "https"

/-- The port that needs no mention. -/
def port : Scheme → Nat
  | http => 80
  | https => 443

end Scheme

/-- A web address.  User name, password, path segments, query and fragment are percent encoded;
the usual port of the scheme is no part of it. -/
structure Url where
  scheme : Scheme
  username : List Char
  password : List Char
  host : Host
  port : Option Nat
  path : List (List Char)
  query : Option (List Char)
  fragment : Option (List Char)
  deriving DecidableEq, Repr, Inhabited

namespace Url

/-- User name and password in front of a host. -/
def userText (u : Url) : String :=
  if u.username.isEmpty ∧ u.password.isEmpty then ""
  else if u.password.isEmpty then String.ofList u.username ++ "@"
  else String.ofList u.username ++ ":" ++ String.ofList u.password ++ "@"

/-- A part behind its mark, if there is one. -/
def partText (mark : String) : Option (List Char) → String
  | some cs => mark ++ String.ofList cs
  | none => ""

/-- The port behind a host. -/
def portText : Option Nat → String
  | some n => ":" ++ toString n
  | none => ""

/-- A web address in full. -/
def text (u : Url) : String :=
  u.scheme.name ++ "://" ++ u.userText ++ u.host.text ++ portText u.port ++
    String.ofList (pathText u.path) ++ partText "?" u.query ++ partText "#" u.fragment

end Url

end AlarmMonitor.Http
