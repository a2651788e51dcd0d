/-!
# Flags

What can be given on the command line, and how the help describes it.
-/

set_option autoImplicit false

namespace AlarmMonitor.CommandLine

/-- A flag of the command line. -/
inductive Flag where
  | config
  | baseUrl
  | alarmEndpoint
  | interval
  | installEndpoint
  | syncInterval
  | timeout
  | once
  | help
  deriving DecidableEq, Repr, Inhabited

/-- What follows a flag. -/
inductive Operand where
  /-- Nothing. -/
  | none
  /-- The path of a file, never empty. -/
  | path
  /-- Any text. -/
  | text
  /-- A natural of 64 bits. -/
  | natural
  deriving DecidableEq, Repr, Inhabited

namespace Flag

/-- All flags, in the order of the help. -/
def all : List Flag :=
  [.config, .baseUrl, .alarmEndpoint, .interval, .installEndpoint, .syncInterval, .timeout, .once,
    .help]

theorem mem_all (f : Flag) : f ∈ all := by cases f <;> decide

/-- The name of a flag behind two hyphens. -/
def name : Flag → String
  | config => "config"
  | baseUrl => "base-url"
  | alarmEndpoint => "alarm-endpoint"
  | interval => "interval-ms"
  | installEndpoint => "install-endpoint"
  | syncInterval => "sync-interval-ms"
  | timeout => "timeout-ms"
  | once => "once"
  | help => "help"

/-- The letter of a flag behind one hyphen. -/
def letter : Flag → Option Char
  | config => some 'c'
  | help => some 'h'
  | _ => none

/-- What follows a flag. -/
def operand : Flag → Operand
  | config => .path
  | baseUrl | alarmEndpoint | installEndpoint => .text
  | interval | syncInterval | timeout => .natural
  | once | help => .none

/-- What the help says about a flag. -/
def purpose : Flag → String
  | config => "Path to a config file (TOML)"
  | baseUrl => "Backend base URL (e.g. http://localhost:8000)"
  | alarmEndpoint => "Alarm endpoint path"
  | interval => "Alarm poll interval in milliseconds (minimum 500)"
  | installEndpoint => "Install-state endpoint path"
  | syncInterval => "Install-state check interval in milliseconds (minimum 2000)"
  | timeout => "HTTP request timeout in milliseconds"
  | once => "Run the install check and at most one alarm poll, then exit"
  | help => "Print help"

/-- The flag of a name. -/
def named? (s : String) : Option Flag := all.find? (·.name == s)

/-- The flag of a letter. -/
def lettered? (c : Char) : Option Flag := all.find? (·.letter == some c)

theorem named?_name (f : Flag) : named? f.name = some f := by cases f <;> decide

/-- The name of an operand, made of the name of its flag. -/
def operandName (f : Flag) : String :=
  String.ofList (f.name.toList.map fun c => if c = '-' then '_' else c.toUpper)

/-- A flag with its operand, as messages and the help show it. -/
def usage (f : Flag) : String :=
  match f.operand with
  | .none => "--" ++ f.name
  | _ => "--" ++ f.name ++ " <" ++ f.operandName ++ ">"

/-- The two lines of a flag in the help. -/
def helpLines (f : Flag) : List String :=
  let front := match f.letter with
    | some c => "  -" ++ String.singleton c ++ ", "
    | none => "      "
  [front ++ f.usage, "          " ++ f.purpose]

end Flag

/-- The name of the program. -/
def programName : String := "alarmwatch"

/-- The lines of the help. -/
def helpText : List String :=
  ["Poll an installation/alarm backend and print each new alarm once", "",
    "Usage: " ++ programName ++ " [OPTIONS]", "", "Options:"] ++ Flag.all.flatMap Flag.helpLines

end AlarmMonitor.CommandLine
