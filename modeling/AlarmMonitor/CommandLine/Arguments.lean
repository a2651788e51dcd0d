import AlarmMonitor.CommandLine.Flag
import AlarmMonitor.Number.Literal
import AlarmMonitor.Settings.Basic
import AlarmMonitor.Text.Split

/-!
# Reading the command line

The words are read one after the other.  An operand stands in the word of its flag, behind `=` or
behind the letter, or in the next word unless that begins with a hyphen.  A flag is settled when
the next flag is met or the words end: only then its operand is missed, and only then it is found
to be repeated or its operand to be wrong.  A word that is nothing at all is a mistake at once.
-/

set_option autoImplicit false

namespace AlarmMonitor.CommandLine

/-- Why a text is no natural of 64 bits. -/
inductive NumberFault where
  | empty
  | strangeDigit
  | tooLarge
  deriving DecidableEq, Repr, Inhabited

/-- The message of a fault. -/
def NumberFault.message : NumberFault → String
  | .empty => "cannot parse integer from empty string"
  | .strangeDigit => "invalid digit found in string"
  | .tooLarge => "number too large to fit in target type"

/-- Reads digits behind a number; the first character that cannot follow decides the fault. -/
def readDigits (n : Nat) : List Char → Except NumberFault Nat
  | [] => .ok n
  | c :: cs =>
    if c.isDigit then
      let n := n * 10 + Number.digitValue c
      if Number.maxWord < n then .error .tooLarge else readDigits n cs
    else .error .strangeDigit

/-- Reads a natural of 64 bits, with or without a plus sign. -/
def readNatural : List Char → Except NumberFault Nat
  | [] => .error .empty
  | ['+'] => .error .strangeDigit
  | '+' :: cs => readDigits 0 cs
  | cs => readDigits 0 cs

/-- What is wrong with a command line. -/
inductive Mistake where
  /-- A word is neither a flag nor an operand. -/
  | unexpected (word : String)
  /-- A flag has no operand. -/
  | missing (flag : Flag)
  /-- A flag is given twice. -/
  | repeated (flag : Flag)
  /-- A flag without operand is given one. -/
  | needless (flag : Flag) (operand : String)
  /-- An operand is no number. -/
  | invalid (flag : Flag) (operand : String) (fault : NumberFault)
  deriving DecidableEq, Repr, Inhabited

/-- The message about a mistake. -/
def Mistake.message : Mistake → String
  | .unexpected word => "unexpected argument '" ++ word ++ "' found"
  | .missing flag => "a value is required for '" ++ flag.usage ++ "' but none was supplied"
  | .repeated flag => "the argument '" ++ flag.usage ++ "' cannot be used multiple times"
  | .needless flag operand =>
    "unexpected value '" ++ operand ++ "' for '" ++ flag.usage ++
      "' found; no more were expected"
  | .invalid flag operand fault =>
    "invalid value '" ++ operand ++ "' for '" ++ flag.usage ++ "': " ++ fault.message

/-- The operand of a flag that has been read. -/
inductive Value where
  | none
  | text (s : String)
  | natural (n : Nat)
  deriving DecidableEq, Repr, Inhabited

/-- Reads the operand of a flag. -/
def readValue (flag : Flag) (s : String) : Except Mistake Value :=
  match flag.operand with
  | .none => .ok .none
  | .path => if s.isEmpty then .error (.missing flag) else .ok (.text s)
  | .text => .ok (.text s)
  | .natural =>
    match readNatural s.toList with
    | .ok n => .ok (.natural n)
    | .error fault => .error (.invalid flag s fault)

/-- A command line half read: the flags that are settled, and the flag that awaits an operand or
awaits to be settled with the one it has. -/
structure Reading where
  settled : List (Flag × Value)
  last : Option (Flag × Option String)

namespace Reading

/-- Nothing read. -/
def start : Reading := ⟨[], none⟩

/-- Adds a flag with its operand. -/
def add (r : Reading) (flag : Flag) (s : String) : Except Mistake Reading :=
  if r.settled.any (·.1 == flag) then .error (.repeated flag)
  else (readValue flag s).map fun v => { r with settled := r.settled ++ [(flag, v)] }

/-- Settles the flag read last. -/
def settle (r : Reading) : Except Mistake Reading :=
  match r.last with
  | none => .ok r
  | some (flag, none) => .error (.missing flag)
  | some (flag, some s) => { r with last := none }.add flag s

/-- Awaits the operand of a flag. -/
def await (r : Reading) (flag : Flag) : Except Mistake Reading :=
  r.settle.map fun r => { r with last := some (flag, none) }

/-- Takes a word that is no flag. -/
def take (r : Reading) (word : String) : Except Mistake Reading :=
  match r.last with
  | some (flag, none) => .ok { r with last := some (flag, some word) }
  | _ => .error (.unexpected word)

end Reading

/-- A flag as it stands in a word, with the operand attached to it. -/
structure Mention where
  flag : Flag
  operand : Option String
  deriving DecidableEq, Repr

/-- What a word is. -/
inductive Word where
  /-- Two hyphens, behind which no word is a flag. -/
  | terminator
  | flag (m : Mention)
  | plain (text : String)
  deriving DecidableEq, Repr

/-- The flag of a word behind two hyphens. -/
def readLong (cs : List Char) : Except Mistake Mention :=
  let (name, operand) := match Text.aroundFirst '=' cs with
    | some (name, operand) => (String.ofList name, some (String.ofList operand))
    | none => (String.ofList cs, none)
  match Flag.named? name, operand with
  | none, _ => .error (.unexpected ("--" ++ name))
  | some flag, none => .ok ⟨flag, none⟩
  | some flag, some s =>
    if flag.operand = .none then .error (.needless flag s) else .ok ⟨flag, some s⟩

/-- The operand behind the letter of a flag. -/
def attached : List Char → Option String
  | [] => none
  | '=' :: cs => some (String.ofList cs)
  | cs => some (String.ofList cs)

/-- The flag of a word behind one hyphen.  Behind the letter of a flag without operand nothing is
read: the help ends the reading. -/
def readShort (c : Char) (cs : List Char) : Except Mistake Mention :=
  match Flag.lettered? c with
  | none => .error (.unexpected ("-" ++ String.singleton c))
  | some flag => .ok ⟨flag, if flag.operand = .none then none else attached cs⟩

/-- Reads one word. -/
def readWord (s : String) : Except Mistake Word :=
  match s.toList with
  | ['-', '-'] => .ok .terminator
  | '-' :: '-' :: cs => (readLong cs).map .flag
  | '-' :: c :: cs => (readShort c cs).map .flag
  | _ => .ok (.plain s)

/-- Takes a flag that does not end the reading. -/
def Reading.mention (r : Reading) (m : Mention) : Except Mistake Reading :=
  match m.flag.operand, m.operand with
  | .none, _ => do (← r.settle).add m.flag ""
  | _, some s => do (← r.settle).add m.flag s
  | _, none => r.await m.flag

/-- Reads all words; nothing if the help is asked for. -/
def readWords (r : Reading) : List String → Except Mistake (Option Reading)
  | [] => r.settle.map some
  | s :: rest => do
    match ← readWord s with
    | .terminator =>
      match rest with
      | [] => r.settle.map some
      | extra :: _ => .error (.unexpected extra)
    | .plain text => readWords (← r.take text) rest
    | .flag ⟨.help, _⟩ => r.settle.map fun _ => none
    | .flag m => readWords (← r.mention m) rest

/-- What the command line says. -/
structure Arguments where
  config : Option String
  overrides : Settings.Overrides
  once : Bool
  deriving DecidableEq, Repr

/-- What the program is asked to do. -/
inductive Request where
  | help
  | run (arguments : Arguments)
  deriving DecidableEq, Repr

namespace Reading

/-- The text given to a flag. -/
def text? (r : Reading) (flag : Flag) : Option String :=
  match r.settled.lookup flag with
  | some (.text s) => some s
  | _ => none

/-- The natural given to a flag. -/
def natural? (r : Reading) (flag : Flag) : Option Nat :=
  match r.settled.lookup flag with
  | some (.natural n) => some n
  | _ => none

/-- The arguments that were read. -/
def arguments (r : Reading) : Arguments where
  config := r.text? .config
  overrides :=
    ⟨r.text? .baseUrl, r.text? .alarmEndpoint, r.natural? .interval, r.text? .installEndpoint,
      r.natural? .syncInterval, r.natural? .timeout⟩
  once := (r.settled.lookup .once).isSome

end Reading

/-- Reads a command line. -/
def read (words : List String) : Except Mistake Request :=
  (readWords .start words).map fun
    | some r => .run r.arguments
    | none => .help

end AlarmMonitor.CommandLine
