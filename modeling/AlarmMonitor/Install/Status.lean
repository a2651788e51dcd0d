import AlarmMonitor.Json.Token

/-!
# The installation status

A client is installed or not.  The backend names the status by a signal; only the two exact names
are recognised.
-/

set_option autoImplicit false

namespace AlarmMonitor.Install

/-- The status of the client; it counts as uninstalled until told otherwise. -/
inductive Status where
  | install
  | uninstall
  deriving DecidableEq, Repr

instance : Inhabited Status := ⟨.uninstall⟩

namespace Status

/-- The name of a status. -/
def name : Status → String
  | .install => "install"
  | .uninstall => "uninstall"

/-- The status named by a signal. -/
def ofSignal (s : String) : Option Status :=
  if s = "install" then some .install
  else if s = "uninstall" then some .uninstall
  else none

def isInstalled : Status → Bool
  | .install => true
  | .uninstall => false

/-- The name of a status in a diagnostic. -/
def label : Status → String
  | .install => "Install"
  | .uninstall => "Uninstall"

/-- The status as JSON text. -/
def json (s : Status) : String := String.ofList (Json.stringText s.name)

theorem ofSignal_name (s : Status) : ofSignal s.name = some s := by cases s <;> rfl

theorem ofSignal_eq_some_iff {t : String} {s : Status} : ofSignal t = some s ↔ t = s.name := by
  unfold ofSignal
  constructor
  · intro h
    split at h
    · cases h; assumption
    · split at h
      · cases h; assumption
      · cases h
  · rintro rfl; exact ofSignal_name s

end Status

end AlarmMonitor.Install
