import AlarmMonitor.CommandLine.Session

/-!
# The program

Gathers the words, the variables and the configuration file, runs a session, and shows what it
found.  No request of the session reaches a server.  A session that is not asked to stop after one
check lasts until the standard input ends.
-/

set_option autoImplicit false

namespace AlarmMonitor.Program

/-- The names of the variables that a session can depend on. -/
def variableNames : List String :=
  CommandLine.filterVariable ::
    ["BASE_URL", "ALARM_ENDPOINT", "INTERVAL_MS", "INSTALL_ENDPOINT", "SYNC_INTERVAL_MS",
      "TIMEOUT_MS", "DETAIL_HINT"].map fun key => Settings.environmentLabel ++ "_" ++ key

/-- The variables that are set. -/
def readVariables : IO (List Settings.Environment.Variable) := do
  let mut found := []
  for name in variableNames do
    if let some text ← IO.getEnv name then
      found := found ++ [(name, text)]
  return found

/-- The names under which the file of a path is looked for. -/
def candidates (path : String) : List String :=
  path :: Settings.Format.extensions.map fun (extension, _) => path ++ "." ++ extension

/-- The files that the configuration may be in. -/
def readFolder (path : Option String) : IO Settings.Folder := do
  let mut found := []
  for name in path.elim [] candidates do
    if let .ok text ← (IO.FS.readFile name).toBaseIO then
      found := found ++ [(Settings.File.canonical name, text)]
  return found

/-- The configuration file that the words name. -/
def configOf (words : List String) : Option String :=
  match CommandLine.read words with
  | .ok (.run a) => a.config
  | _ => none

/-- Is the session to last until it is interrupted? -/
def isLasting (words : List String) : Bool :=
  match CommandLine.read words with
  | .ok (.run a) => !a.once
  | _ => false

/-- Runs a session and shows what it found. -/
def run (words : List String) : IO UInt32 := do
  let ending := CommandLine.Session.run words (← readFolder (configOf words)) (← readVariables)
  for line in ending.output do
    IO.println line
  if let some text := ending.complaint then
    IO.eprintln text
  else if isLasting words then
    let _ ← (← IO.getStdin).getLine
  return UInt32.ofNat ending.exit

end AlarmMonitor.Program

def main (words : List String) : IO UInt32 := AlarmMonitor.Program.run words
