import AlarmMonitor.Number.Literal
import AlarmMonitor.Number.Shortest

/-!
# Binary numbers with infinities

A number as a configuration holds it: a finite double, an infinity, or not a number.  A text is read
by rounding once; beyond the largest double lies an infinity.  Rounded to a natural of 64 bits, a
half goes away from zero, and what does not fit goes to the nearer end.
-/

set_option autoImplicit false

namespace AlarmMonitor.Number

/-- A binary number. -/
inductive Binary where
  | finite (d : Double)
  | infinite (negative : Bool)
  /-- What is not a number. -/
  | nan
  deriving DecidableEq, Repr, Inhabited

namespace Binary

/-- The number nearest to a literal. -/
def ofLiteral (l : Literal) : Binary :=
  match l.nearest with
  | some d => .finite d
  | none => .infinite l.negative

/-- The names of what is not finite, in lower case. -/
def named (negative : Bool) (cs : List Char) : Option Binary :=
  if cs = ['i', 'n', 'f'] ∨ cs = ['i', 'n', 'f', 'i', 'n', 'i', 't', 'y'] then
    some (.infinite negative)
  else if cs = ['n', 'a', 'n'] then some .nan
  else none

/-- A sign at the front of a text, and what follows it. -/
def splitSign : List Char → Bool × List Char
  | '-' :: cs => (true, cs)
  | '+' :: cs => (false, cs)
  | cs => (false, cs)

/-- Reads a decimal literal in the loose form, or one of the names in any case, with an optional
sign. -/
def read (cs : List Char) : Option Binary :=
  let (negative, rest) := splitSign cs
  match named negative (rest.map Char.toLower) with
  | some r => some r
  | none => (Literal.ofLoose cs).map ofLiteral

/-- Every finite number is written positionally, and a whole one without a point. -/
def layout : Layout := ⟨none, false, false⟩

/-- The text of a number. -/
def text : Binary → List Char
  | .finite d => layout.text d
  | .infinite false => ['i', 'n', 'f']
  | .infinite true => ['-', 'i', 'n', 'f']
  | .nan => ['N', 'a', 'N']

/-- The nearest natural of 64 bits. -/
def toWord : Binary → Nat
  | .finite d => if d.negative then 0 else min d.roundMagnitude maxWord
  | .infinite negative => if negative then 0 else maxWord
  | .nan => 0

end Binary

end AlarmMonitor.Number
