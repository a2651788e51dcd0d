import AlarmMonitor.Http.Url.Basic

/-!
# Reading URLs

A URL is read part by part: the scheme up to the first colon, the authority up to the path, and
there the user, the host and the port.  Of a scheme other than the two of the web only the
validity and the name matter.
-/

set_option autoImplicit false

namespace AlarmMonitor.Http.Url

/-- What a URL leads to. -/
inductive Target where
  /-- A web address. -/
  | web (url : Url)
  /-- Something of another scheme. -/
  | foreign (scheme : String)
  deriving DecidableEq, Repr, Inhabited

/-- Is this a blank or control character, which counts for nothing at either end? -/
def isMargin (c : Char) : Bool := c.toNat ≤ 0x20

/-- Is this a tab or a line break, which counts for nothing anywhere? -/
def isBreak (c : Char) : Bool := c == '\t' || c == '\n' || c == '\r'

/-- The text of a URL without the characters that count for nothing. -/
def clean (cs : List Char) : List Char :=
  (((cs.dropWhile isMargin).reverse.dropWhile isMargin).reverse).filter (!isBreak ·)

/-- May the character stand in a scheme behind its first letter? -/
def isSchemeChar (c : Char) : Bool := c.isAlphanum || c == '+' || c == '-' || c == '.'

/-- The name of a scheme in lower case, and what follows its colon. -/
def scheme? (cs : List Char) : Option (List Char × List Char) := do
  let (name, rest) ← Text.aroundFirst ':' cs
  let first ← name.head?
  if first.isAlpha ∧ name.all isSchemeChar then some (name.map Char.toLower, rest) else none

/-! ## The authority -/

/-- Does the character end the authority of a web address? -/
def endsAuthority (c : Char) : Bool := isSlash c || c == '?' || c == '#'

/-- The host of an authority, and what stands behind the colon that ends it.  A colon between
brackets does not end a host. -/
def hostSection : Bool → List Char → List Char × Option (List Char)
  | _, [] => ([], none)
  | inside, c :: cs =>
    if c = ':' ∧ inside = false then ([], some cs)
    else
      let (host, port) := hostSection (c == '[' || (inside && c != ']')) cs
      (c :: host, port)

/-- Reads the digits of a port; without any there is no port. -/
def readPort (cs : List Char) : Except Fault (Option Nat) :=
  if cs.isEmpty then .ok none
  else match Address.number? 10 cs with
    | some n => if n < 65536 then .ok (some n) else .error .badPort
    | none => .error .badPort

/-- User name and password, encoded. -/
def readUser (cs : List Char) : List Char × List Char :=
  let (name, password) := (Text.aroundFirst ':' cs).getD (cs, [])
  (Percent.encode Percent.inUserinfo name, Percent.encode Percent.inUserinfo password)

/-- The user and the rest of an authority: the last `@` parts them. -/
def userSection (cs : List Char) : List Char × List Char := (Text.aroundLast '@' cs).getD ([], cs)

/-- Reads host and port. -/
def readHostPort (cs : List Char) : Except Fault (Host × Option Nat) := do
  let (name, port) := hostSection false cs
  if name.isEmpty then throw .emptyHost
  let host ← Host.read name
  let port ← readPort (port.getD [])
  return (host, port)

/-! ## The rest -/

/-- Does the character end a path? -/
def endsPath (c : Char) : Bool := c == '?' || c == '#'

/-- The query and the fragment of what follows a path. -/
def readTail (cs : List Char) : Option (List Char) × Option (List Char) :=
  let (front, fragment) := match Text.aroundFirst '#' cs with
    | some (front, fragment) => (front, some fragment)
    | none => (cs, none)
  let query := match front with
    | '?' :: query => some query
    | _ => none
  (query.map (Percent.encode Percent.inQuery), fragment.map (Percent.encode Percent.inFragment))

/-- Reads what follows the colon of a web scheme.  Any number of slashes opens the authority. -/
def readWeb (scheme : Scheme) (cs : List Char) : Except Fault Url := do
  let cs := cs.dropWhile isSlash
  let rest := cs.dropWhile (!endsAuthority ·)
  let (user, place) := userSection (cs.takeWhile (!endsAuthority ·))
  let (host, port) ← readHostPort place
  let (username, password) := readUser user
  let (query, fragment) := readTail (rest.dropWhile (!endsPath ·))
  return ⟨scheme, username, password, host, port.filter (· != scheme.port),
    readPath (rest.takeWhile (!endsPath ·)), query, fragment⟩

/-! ## Foreign schemes -/

/-- Checks what follows the colon of a scheme that names hosts as the web does. -/
def checkNetwork (cs : List Char) : Except Fault Unit := do
  let authority := (cs.dropWhile isSlash).takeWhile (!endsAuthority ·)
  let _ ← readHostPort (userSection authority).2

/-- Checks what follows the colon of a scheme for files: a host stands behind two slashes, unless
a drive stands there. -/
def checkFile : List Char → Except Fault Unit
  | a :: b :: cs =>
    let host := cs.takeWhile (!endsAuthority ·)
    if isSlash a ∧ isSlash b ∧ ¬ host.isEmpty ∧ ¬ isDrive host then (Host.read host).map fun _ => ()
    else .ok ()
  | _ => .ok ()

/-- Checks an authority without a domain name, the text behind it given. -/
def checkForeignAuthority (cs rest : List Char) : Except Fault Unit := do
  let (user, place) := userSection cs
  if cs = ['@'] ∧ ¬ rest.isEmpty then throw .emptyHost
  let (host, port) := hostSection false place
  Host.checkForeign host
  if host.isEmpty ∧ port.isSome then throw .emptyHost
  let _ ← readPort ((port.getD []).takeWhile (· != '\\'))
  if host.isEmpty ∧ readUser user ≠ ([], []) then throw .emptyHost

/-- Checks what follows the colon of any other scheme: two slashes open an authority. -/
def checkOther (cs : List Char) : Except Fault Unit :=
  match cs with
  | '/' :: '/' :: cs =>
    let ends (c : Char) : Bool := c == '/' || endsPath c
    checkForeignAuthority (cs.takeWhile (!ends ·)) (cs.dropWhile (!ends ·))
  | _ => .ok ()

/-- Reads a URL. -/
def read (s : String) : Except Fault Target :=
  match scheme? (clean s.toList) with
  | none => .error .relative
  | some (name, rest) =>
    let foreign := Target.foreign (String.ofList name)
    match String.ofList name with
    | "http" => (readWeb .http rest).map .web
    | "https" => (readWeb .https rest).map .web
    | "ws" | "wss" | "ftp" => (checkNetwork rest).map fun _ => foreign
    | "file" => (checkFile rest).map fun _ => foreign
    | _ => (checkOther rest).map fun _ => foreign

end AlarmMonitor.Http.Url
