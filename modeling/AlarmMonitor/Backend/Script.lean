import AlarmMonitor.Backend.Reply

/-!
# Scripted answers

A script keeps a queue of answers for every endpoint.  A call takes the first answer of its
endpoint's queue; once the queue is empty, the last answer taken is given again.  Endpoints do not
touch each other.
-/

set_option autoImplicit false

namespace AlarmMonitor.Backend

/-- The answers of one endpoint. -/
structure Line (α : Type) where
  /-- Answers that have not been given, the next one first. -/
  queued : List α
  /-- The answer given last from the queue. -/
  last : Option α
  /-- The number of calls. -/
  calls : Nat
  deriving DecidableEq, Repr

namespace Line

variable {α : Type}

/-- No answers and no calls. -/
def empty : Line α := ⟨[], none, 0⟩

instance : Inhabited (Line α) := ⟨empty⟩

/-- Puts one more answer at the end of the queue. -/
def push (l : Line α) (answer : α) : Line α := { l with queued := l.queued ++ [answer] }

/-- One call: the answer, if there ever was one, and the line after it. -/
def take (l : Line α) : Line α × Option α :=
  match l.queued with
  | answer :: rest => (⟨rest, some answer, l.calls + 1⟩, some answer)
  | [] => ({ l with calls := l.calls + 1 }, l.last)

end Line

/-- The lines of all endpoints that have been named, in the order of their first mention. -/
structure Script (α : Type) where
  lines : List (String × Line α)
  deriving DecidableEq, Repr

namespace Script

variable {α : Type}

/-- A script that knows no endpoint. -/
def empty : Script α := ⟨[]⟩

instance : Inhabited (Script α) := ⟨empty⟩

/-- The line of an endpoint in a list of lines; it is empty before the first mention. -/
def lineIn (endpoint : String) : List (String × Line α) → Line α
  | [] => .empty
  | (e, l) :: rest => if e = endpoint then l else lineIn endpoint rest

/-- Replaces the line of an endpoint in a list of lines. -/
def setIn (endpoint : String) (line : Line α) : List (String × Line α) → List (String × Line α)
  | [] => [(endpoint, line)]
  | (e, l) :: rest => if e = endpoint then (e, line) :: rest else (e, l) :: setIn endpoint line rest

/-- The line of an endpoint. -/
def line (s : Script α) (endpoint : String) : Line α := lineIn endpoint s.lines

/-- Replaces the line of an endpoint. -/
def setLine (s : Script α) (endpoint : String) (l : Line α) : Script α :=
  ⟨setIn endpoint l s.lines⟩

/-- Queues one more answer for an endpoint. -/
def push (s : Script α) (endpoint : String) (answer : α) : Script α :=
  s.setLine endpoint ((s.line endpoint).push answer)

/-- One call of an endpoint. -/
def take (s : Script α) (endpoint : String) : Script α × Option α :=
  let (l, answer) := (s.line endpoint).take
  (s.setLine endpoint l, answer)

/-- The number of calls of an endpoint. -/
def calls (s : Script α) (endpoint : String) : Nat := (s.line endpoint).calls

/-- The endpoints that were called, with the number of their calls. -/
def called (s : Script α) : List (String × Nat) :=
  (s.lines.map fun p => (p.1, p.2.calls)).filter fun p => 0 < p.2

theorem lineIn_setIn (e e' : String) (l : Line α) (ls : List (String × Line α)) :
    lineIn e (setIn e' l ls) = if e' = e then l else lineIn e ls := by
  induction ls with
  | nil => by_cases h : e' = e <;> simp [setIn, lineIn, h]
  | cons p rest ih =>
    obtain ⟨f, m⟩ := p
    by_cases hf : f = e'
    · subst hf
      by_cases h : f = e <;> simp [setIn, lineIn, h]
    · by_cases h : f = e
      · subst h
        simp [setIn, lineIn, hf, Ne.symm hf]
      · simp [setIn, lineIn, hf, h, ih]

/-- Replacing the line of one endpoint shows at this endpoint alone. -/
theorem line_setLine (s : Script α) (e e' : String) (l : Line α) :
    (s.setLine e' l).line e = if e' = e then l else s.line e :=
  lineIn_setIn e e' l s.lines

end Script

/-- The failure of an endpoint that has no answers. -/
def Reply.refused (endpoint : String) : Reply := .failure ("connection refused: " ++ endpoint)

/-- One call of an endpoint whose answers are replies. -/
def Script.get (s : Script Reply) (endpoint : String) : Script Reply × Reply :=
  let (s, answer) := s.take endpoint
  (s, answer.getD (.refused endpoint))

end AlarmMonitor.Backend
