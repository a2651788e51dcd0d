import AlarmMonitor.Log
import AlarmMonitor.Text.Quoted
import AlarmMonitor.Text.Utf8

/-!
# A sink that writes lines

Every text becomes one line: a label, a space and the text, or the text alone if the label is
empty.  The pieces of a line are written one after the other; what was written before a failure
stays, and a line that could not be written completely is only logged.
-/

set_option autoImplicit false

namespace AlarmMonitor.Sink

/-- Where bytes are written.  A writer with limited room takes as many bytes as fit and then
fails. -/
structure Writer where
  written : List UInt8
  /-- The number of bytes that still fit; without it there is no limit. -/
  room : Option Nat
  deriving DecidableEq, Repr

namespace Writer

/-- A writer that has written nothing. -/
def new (room : Option Nat) : Writer := ⟨[], room⟩

instance : Inhabited Writer := ⟨new none⟩

/-- Why a writer without room fails. -/
def fault : String := "sink full"

/-- Writes bytes; says whether all of them fitted. -/
def put (w : Writer) (bytes : List UInt8) : Writer × Bool :=
  match w.room with
  | none => ({ w with written := w.written ++ bytes }, true)
  | some n =>
    (⟨w.written ++ bytes.take n, some (n - bytes.length)⟩, bytes.length ≤ n)

/-- Writes texts one after the other up to the first failure. -/
def putAll (w : Writer) : List String → Writer × Bool
  | [] => (w, true)
  | piece :: rest =>
    match w.put (Text.encode piece) with
    | (w, true) => w.putAll rest
    | (w, false) => (w, false)

/-- What was written, as text. -/
def text (w : Writer) : String := Text.decode w.written

end Writer

/-- The label unless configured otherwise. -/
def defaultLabel : String := "[alarm]"

/-- A sink that writes lines with a label. -/
structure Terminal where
  label : String
  writer : Writer
  deriving DecidableEq, Repr

namespace Terminal

/-- The pieces of the line of a text. -/
def pieces (label text : String) : List String :=
  if label = "" then [text, "\n"] else [label, " ", text, "\n"]

/-- The log line of a failed line. -/
def warning : Log.Line :=
  ⟨.warn, "alarmwatch::sink", "Failed to write alarm notification: " ++ Writer.fault⟩

/-- Writes the line of a text; returns what is logged. -/
def notify (t : Terminal) (text : String) : Terminal × List Log.Line :=
  match t.writer.putAll (pieces t.label text) with
  | (w, true) => ({ t with writer := w }, [])
  | (w, false) => ({ t with writer := w }, [warning])

/-- Writes the lines of texts one after the other. -/
def notifyAll (t : Terminal) : List String → Terminal × List Log.Line
  | [] => (t, [])
  | text :: rest =>
    let (t, logged) := t.notify text
    let (t, later) := t.notifyAll rest
    (t, logged ++ later)

/-- The sink in a diagnostic. -/
def describe (t : Terminal) : String :=
  "TerminalSink \x7b prefix: " ++ Text.quoted t.label ++ " \x7d"

end Terminal

end AlarmMonitor.Sink
