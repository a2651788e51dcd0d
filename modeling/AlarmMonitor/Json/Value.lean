import AlarmMonitor.Number.Literal
import AlarmMonitor.Number.Shortest

/-!
# JSON values

A value is what a response body means: layout, the order of members and repeated members are gone.
The members of an object are kept in the order of their names, each name once, so that two bodies
with the same meaning have equal values.
-/

set_option autoImplicit false

namespace AlarmMonitor.Json

/-- A number is an integer from `-2 ^ 63` to `2 ^ 64 - 1`, or a double. -/
inductive Number where
  | int (i : Int)
  | double (d : AlarmMonitor.Number.Double)
  deriving DecidableEq, Repr, Inhabited

namespace Number

open AlarmMonitor.Number

/-- Is the integer kept as an integer?  Negative ones have 63 bits beside the sign, the others 64
bits. -/
def inIntegerRange (i : Int) : Bool := -(signedBound : Int) ≤ i && i < wordBound

/-- The number written by a literal: an integer if it is written as one and in range, `-0` being
no integer; otherwise a double, or nothing beyond the largest double. -/
def ofLiteral (l : Literal) : Option Number :=
  let i : Int := if l.negative then -(ofDigits l.whole : Int) else ofDigits l.whole
  if l.isInteger && inIntegerRange i && !(l.negative && i == 0) then some (.int i)
  else l.quick.map .double

/-- Doubles are written positionally for exponents from -5 to 15, with a point always, and with
a signed exponent otherwise. -/
def doubleLayout : Layout := ⟨some (-5, 15), true, true⟩

/-- The text of an integer. -/
def intText (i : Int) : List Char :=
  if i < 0 then '-' :: Nat.toDigits 10 i.natAbs else Nat.toDigits 10 i.natAbs

/-- The text of a number. -/
def text : Number → List Char
  | .int i => intText i
  | .double d => doubleLayout.text d

end Number

/-- A JSON value. -/
inductive Value where
  | null
  | bool (b : Bool)
  | number (n : Number)
  | string (s : String)
  | array (items : List Value)
  | object (members : List (String × Value))
  deriving Repr, Inhabited

namespace Value

/-- Puts a member into a list in the order of names; a name that is there already gets the new
value. -/
def insertMember (name : String) (v : Value) : List (String × Value) → List (String × Value)
  | [] => [(name, v)]
  | (n, w) :: rest =>
    if name < n then (name, v) :: (n, w) :: rest
    else if name = n then (name, v) :: rest
    else (n, w) :: insertMember name v rest

/-- The member of that name in a list of members. -/
def lookup (name : String) : List (String × Value) → Option Value
  | [] => none
  | (n, v) :: rest => if n = name then some v else lookup name rest

/-- The member of that name, if the value is an object that has one. -/
def member? (name : String) : Value → Option Value
  | .object members => lookup name members
  | _ => none

def isNull : Value → Bool
  | .null => true
  | _ => false

end Value

end AlarmMonitor.Json
