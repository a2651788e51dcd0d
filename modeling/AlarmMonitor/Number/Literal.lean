import AlarmMonitor.Number.Double
import AlarmMonitor.Number.Word

/-!
# Decimal literals

The parts of a decimal literal as written, and the two ways in which this library turns them into
a double: `Literal.nearest` rounds the written value once, and `Literal.quick` is the reading of
response bodies, which keeps only as many digits as fit into 64 bits and rounds at every step.
-/

set_option autoImplicit false

namespace AlarmMonitor.Number

/-- A decimal literal: sign, digits before the point, digits after it if there is one, and the
written exponent if there is one. -/
structure Literal where
  negative : Bool
  whole : List Nat
  fraction : Option (List Nat)
  exponent : Option (Bool × List Nat)
  deriving DecidableEq, Repr, Inhabited

/-- The value of a decimal digit. -/
def digitValue (c : Char) : Nat := c.toNat - '0'.toNat

/-- The natural written by a row of digits. -/
def ofDigits (ds : List Nat) : Nat := ds.foldl (fun n d => n * 10 + d) 0

/-- The digits at the front of a text, and what follows them. -/
def spanDigits (cs : List Char) : List Nat × List Char :=
  ((cs.takeWhile Char.isDigit).map digitValue, cs.dropWhile Char.isDigit)

namespace Literal

/-- The sign at the front of an exponent, and what follows it. -/
def exponentSign : List Char → Bool × List Char
  | '-' :: cs => (true, cs)
  | '+' :: cs => (false, cs)
  | cs => (false, cs)

/-- The exponent of a literal: nothing, or `e`, a sign and digits up to the end. -/
def readExponent : List Char → Option (Option (Bool × List Nat))
  | [] => some none
  | c :: cs =>
    if c = 'e' ∨ c = 'E' then
      let (negative, cs) := exponentSign cs
      match spanDigits cs with
      | (ds, []) => if ds.isEmpty then none else some (some (negative, ds))
      | _ => none
    else none

/-- The fraction and the exponent of a literal, up to the end. -/
def readTail (negative : Bool) (whole : List Nat) : List Char → Option Literal
  | '.' :: cs =>
    let (ds, rest) := spanDigits cs
    (readExponent rest).map fun e => ⟨negative, whole, some ds, e⟩
  | cs => (readExponent cs).map fun e => ⟨negative, whole, none, e⟩

/-- A literal without its sign, up to the end.  Parts may be empty. -/
def readUnsigned (negative : Bool) (cs : List Char) : Option Literal :=
  let (ds, rest) := spanDigits cs
  readTail negative ds rest

/-- The strict form: no plus sign, no leading zero before another digit, and digits on both sides
of a point. -/
def isStrict (l : Literal) : Bool :=
  (match l.whole with
    | [] => false
    | [_] => true
    | d :: _ => d != 0) &&
  (match l.fraction with
    | none => true
    | some ds => !ds.isEmpty)

/-- Reads the strict form. -/
def ofStrict (cs : List Char) : Option Literal :=
  let l := match cs with
    | '-' :: rest => readUnsigned true rest
    | _ => readUnsigned false cs
  l.filter isStrict

/-- The loose form: at least one digit beside the point. -/
def isLoose (l : Literal) : Bool :=
  !l.whole.isEmpty || (l.fraction.getD []) != []

/-- Reads the loose form, in which a plus sign is allowed too. -/
def ofLoose (cs : List Char) : Option Literal :=
  let l := match cs with
    | '-' :: rest => readUnsigned true rest
    | '+' :: rest => readUnsigned false rest
    | _ => readUnsigned false cs
  l.filter isLoose

/-- Does the literal write an integer, with neither a point nor an exponent? -/
def isInteger (l : Literal) : Bool := l.fraction.isNone && l.exponent.isNone

/-- The written exponent as an integer. -/
def exponentValue (l : Literal) : Int :=
  match l.exponent with
  | none => 0
  | some (negative, ds) => if negative then -(ofDigits ds : Int) else ofDigits ds

/-- The double nearest to the written value; `none` beyond the largest double. -/
def nearest (l : Literal) : Option Double :=
  let fraction := l.fraction.getD []
  Double.ofDecimal l.negative (ofDigits (l.whole ++ fraction))
    (l.exponentValue - fraction.length)

/-! ## Quick reading -/

/-- Appends digits to a significand while it fits into 64 bits; returns it with the number of
digits taken and the number left out. -/
def accumulate (sig : Nat) : List Nat → Nat × Nat × Nat
  | [] => (sig, 0, 0)
  | d :: ds =>
    if maxWord < sig * 10 + d then (sig, 0, ds.length + 1)
    else
      let (s, taken, dropped) := accumulate (sig * 10 + d) ds
      (s, taken + 1, dropped)

/-- Divides by `10 ^ 308` while the exponent is too low for a table of powers.  Each round adds
308 to the exponent, and zero stays zero. -/
def scaleDown : Nat → Double → Nat → Option Double
  | 0, f, n => do f.div (← Double.powerOfTen n)
  | fuel + 1, f, n =>
    if n ≤ 308 then do f.div (← Double.powerOfTen n)
    else if f.isZero then some f
    else do scaleDown fuel (← f.div (← Double.powerOfTen 308)) (n - 308)

/-- The significand times a power of ten, in steps each rounded by itself; `none` beyond the
largest double. -/
def scale (sig : Nat) (exponent : Int) : Option Double := do
  let f ← Double.ofNat sig
  if exponent < 0 then scaleDown (-exponent).toNat f (-exponent).toNat
  else if exponent ≤ 308 then f.mul (← Double.powerOfTen exponent.toNat)
  else if f.isZero then some f
  else none

/-- The greatest written exponent that is not treated as out of range. -/
def maxExponent : Nat := 2147483647

/-- The double of a literal by the quick reading; `none` beyond the largest double. -/
def quick (l : Literal) : Option Double :=
  let (sig, _, droppedWhole) := accumulate 0 l.whole
  let (sig, takenFraction, _) := accumulate sig (l.fraction.getD [])
  let base : Int := (droppedWhole : Int) - takenFraction
  let magnitude := match l.exponent with
    | none => scale sig base
    | some (negative, ds) =>
      if maxExponent < ofDigits ds then
        if !negative && sig != 0 then none else some (Double.zero false)
      else scale sig (if negative then base - ofDigits ds else base + ofDigits ds)
  magnitude.map (·.withSign l.negative)

end Literal

end AlarmMonitor.Number
