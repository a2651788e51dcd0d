/-!
# Log lines

What the engine has to say about its work is a line with a level, the part of the program that
speaks, and a text.  Each part has its own type of notes and turns them into lines.
-/

set_option autoImplicit false

namespace AlarmMonitor.Log

/-- How important a line is, the most important first. -/
inductive Level where
  | error
  | warn
  | info
  | debug
  | trace
  deriving DecidableEq, Repr

namespace Level

/-- The name of a level in a line. -/
def name : Level → String
  | .error => "ERROR"
  | .warn => "WARN"
  | .info => "INFO"
  | .debug => "DEBUG"
  | .trace => "TRACE"

/-- The rank of a level; a filter that admits rank `n` admits every lower one. -/
def rank : Level → Nat
  | .error => 1
  | .warn => 2
  | .info => 3
  | .debug => 4
  | .trace => 5

end Level

/-- A log line. -/
structure Line where
  level : Level
  target : String
  text : String
  deriving DecidableEq, Repr

namespace Line

/-- The line in full. -/
def render (l : Line) : String := l.level.name ++ " " ++ l.target ++ ": " ++ l.text

/-- The form of a character in which it cannot steer a terminal. -/
def harmless (c : Char) : List Char :=
  match c with
  | '\x07' => ['\\', 'x', '0', '7']
  | '\x08' => ['\\', 'x', '0', '8']
  | '\x0c' => ['\\', 'x', '0', 'c']
  | '\x1b' => ['\\', 'x', '1', 'b']
  | '\x7f' => ['\\', 'x', '7', 'f']
  | c =>
    if 0x80 ≤ c.toNat ∧ c.toNat ≤ 0x9f then
      ['\\', 'u', '\x7b'] ++ Nat.toDigits 16 c.toNat ++ ['\x7d']
    else [c]

/-- The line as a terminal shows it. -/
def shown (l : Line) : String :=
  { l with text := String.ofList (l.text.toList.flatMap harmless) : Line }.render

end Line

/-- The part of the program that opens connections. -/
def connectionTarget : String := "reqwest::connect"

/-- The part of the program that tries addresses. -/
def addressTarget : String := "hyper_util::client::legacy::connect::http"

/-- An alarm that is only logged. -/
def alarmLine (text : String) : Line := ⟨.warn, "alarmwatch::alarm", text⟩

end AlarmMonitor.Log
