import AlarmMonitor.Settings.Basic
import AlarmMonitor.Settings.Environment
import AlarmMonitor.Settings.File
import AlarmMonitor.Settings.Path
import AlarmMonitor.Settings.Value

/-!
# Loading the settings

The layers are merged from the lowest to the highest: the defaults, the configuration file, the
environment.  Only then every key is converted, so a value that a higher layer covers is never
looked at.
-/

set_option autoImplicit false

namespace AlarmMonitor.Settings

/-- The keys of the settings. -/
inductive Key where
  | baseUrl
  | alarmEndpoint
  | interval
  | installEndpoint
  | syncInterval
  | timeout
  | detailHint
  deriving DecidableEq, Repr

/-- The name of a key. -/
def Key.name : Key → String
  | .baseUrl => "base_url"
  | .alarmEndpoint => "alarm_endpoint"
  | .interval => "interval_ms"
  | .installEndpoint => "install_endpoint"
  | .syncInterval => "sync_interval_ms"
  | .timeout => "timeout_ms"
  | .detailHint => "detail_hint"

/-- Why settings cannot be loaded. -/
inductive Fault where
  /-- The file of this path is missing, or is no configuration. -/
  | unreadable (path : String)
  /-- The value of a key is not of the kind expected. -/
  | mismatch (key : Key) (m : Mismatch)
  deriving DecidableEq, Repr

/-- The message about a fault. -/
def Fault.message : Fault → String
  | .unreadable path => "Failed to load config from " ++ path
  | .mismatch key m => m.message key.name

/-- The defaults as a source. -/
def defaults : List (String × Tree) :=
  let text (s : String) : Tree := .scalar none (.text s)
  let natural (n : Nat) : Tree := .scalar none (.integer n)
  [(Key.baseUrl.name, text standard.baseUrl),
    (Key.alarmEndpoint.name, text standard.alarmEndpoint),
    (Key.interval.name, natural standard.interval),
    (Key.installEndpoint.name, text standard.installEndpoint),
    (Key.syncInterval.name, natural standard.syncInterval),
    (Key.timeout.name, natural standard.timeout),
    (Key.detailHint.name, text standard.detailHint)]

/-- The value of a key in the merged configuration. -/
def valueOf (t : Tree) (key : Key) : Tree := (Tree.find key.name t.members).getD .missing

/-- The text of a key. -/
def textOf (t : Tree) (key : Key) : Except Fault String :=
  (valueOf t key).toText.mapError (.mismatch key)

/-- The natural of a key. -/
def naturalOf (t : Tree) (key : Key) : Except Fault Nat :=
  (valueOf t key).toNatural.mapError (.mismatch key)

/-- The settings in the merged configuration. -/
def ofTree (t : Tree) : Except Fault Settings := do
  return {
    baseUrl := ← textOf t .baseUrl
    alarmEndpoint := ← textOf t .alarmEndpoint
    interval := ← naturalOf t .interval
    installEndpoint := ← textOf t .installEndpoint
    syncInterval := ← naturalOf t .syncInterval
    timeout := ← naturalOf t .timeout
    detailHint := ← textOf t .detailHint }

/-- The members of the configuration file as a source; without a file there are none. -/
def fileValues (folder : Folder) : Option String → Except Fault (List (String × Tree))
  | none => .ok []
  | some path =>
    match File.read folder path with
    | some (name, members) => .ok (Tree.ofMembers (some name) members)
    | none => .error (.unreadable path)

/-- Merges the layers. -/
def merged (file : List (String × Tree)) (vars : List Environment.Variable) : Tree :=
  ((Tree.empty.setAll defaults).setAll file).setAll (Environment.values vars)

/-- Loads the settings from a file, if one is named, and the environment. -/
def load (folder : Folder) (path : Option String) (vars : List Environment.Variable) :
    Except Fault Settings := do
  ofTree (merged (← fileValues folder path) vars)

end AlarmMonitor.Settings
