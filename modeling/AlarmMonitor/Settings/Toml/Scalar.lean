import AlarmMonitor.Settings.Data

/-!
# Unquoted values of TOML

Booleans, integers, reals, dates and times.  A date or time has no kind of its own in a
configuration; it is kept as its canonical text.
-/

set_option autoImplicit false

namespace AlarmMonitor.Settings.Toml

open AlarmMonitor.Number

/-- Digits of a class without the underscores between them; every underscore stands between two
digits. -/
def plainDigits (p : Char → Bool) : List Char → Option (List Char)
  | [] => none
  | [c] => if p c then some [c] else none
  | c :: '_' :: rest => if p c then (plainDigits p rest).map (c :: ·) else none
  | c :: rest => if p c then (plainDigits p rest).map (c :: ·) else none

/-- The value of a digit in bases up to sixteen. -/
def digitOf (c : Char) : Nat :=
  if c.isDigit then c.toNat - '0'.toNat else c.toLower.toNat - 'a'.toNat + 10

def isHexDigit (c : Char) : Bool := c.isDigit || ('a' ≤ c.toLower && c.toLower ≤ 'f')

def isOctalDigit (c : Char) : Bool := '0' ≤ c && c ≤ '7'

def isBinaryDigit (c : Char) : Bool := c == '0' || c == '1'

/-- The natural written by digits of a base. -/
def naturalOf (base : Nat) (cs : List Char) : Nat := cs.foldl (fun n c => n * base + digitOf c) 0

/-- An integer, if it fits into 64 bits. -/
def integer (negative : Bool) (n : Nat) : Option Data :=
  if negative then (if n ≤ Number.signedBound then some (.integer (-(n : Int))) else none)
  else if n < Number.signedBound then some (.integer n)
  else none

/-- A natural in another base than ten. -/
def basedInteger (base : Nat) (p : Char → Bool) (cs : List Char) : Option Data := do
  integer false (naturalOf base (← plainDigits p cs))

/-- Decimal digits without a leading zero. -/
def wholeDigits (cs : List Char) : Option (List Char) :=
  (plainDigits Char.isDigit cs).filter fun ds => ds.length == 1 || ds.head? != some '0'

/-- A decimal integer behind its sign. -/
def decimalInteger (negative : Bool) (cs : List Char) : Option Data := do
  integer negative (naturalOf 10 (← wholeDigits cs))

/-- The exponent of a real behind its mark. -/
def exponent (cs : List Char) : Option (Bool × List Nat) := do
  let (negative, cs) := Binary.splitSign cs
  return (negative, (← plainDigits Char.isDigit cs).map digitOf)

/-- The text before the first character of a class, and that character with what follows. -/
def splitAt (p : Char → Bool) (cs : List Char) : List Char × List Char := cs.span fun c => !p c

def isExponentMark (c : Char) : Bool := c == 'e' || c == 'E'

/-- A decimal real behind its sign.  One beyond the largest double is no value. -/
def decimalReal (negative : Bool) (cs : List Char) : Option Data := do
  let (mantissa, tail) := splitAt isExponentMark cs
  let (whole, fraction) := splitAt (· == '.') mantissa
  let whole ← wholeDigits whole
  let fraction ← match fraction with
    | [] => some none
    | _ :: ds => (plainDigits Char.isDigit ds).map fun ds => some (ds.map digitOf)
  let written ← match tail with
    | [] => some none
    | _ :: cs => (exponent cs).map some
  if fraction.isNone && written.isNone then none
  else match Binary.ofLiteral ⟨negative, whole.map digitOf, fraction, written⟩ with
    | .finite d => some (.real (.finite d))
    | _ => none

/-- A number behind its sign. -/
def number (negative : Bool) (cs : List Char) : Option Data :=
  if cs = ['i', 'n', 'f'] then some (.real (.infinite negative))
  else if cs = ['n', 'a', 'n'] then some (.real .nan)
  else (decimalInteger negative cs).or (decimalReal negative cs)

/-! ## Dates and times -/

/-- Two decimal digits as a number. -/
def pair (a b : Char) : Option Nat :=
  if a.isDigit && b.isDigit then some (naturalOf 10 [a, b]) else none

def isLeapYear (y : Nat) : Bool := (y % 4 == 0 && y % 100 != 0) || y % 400 == 0

def daysIn (year month : Nat) : Nat :=
  if month == 2 then (if isLeapYear year then 29 else 28)
  else if [4, 6, 9, 11].contains month then 30
  else 31

/-- The date at the front of a text, in its canonical form, and what follows it. -/
def date : List Char → Option (List Char × List Char)
  | a :: b :: c :: d :: '-' :: e :: f :: '-' :: g :: h :: rest => do
    let year := (← pair a b) * 100 + (← pair c d)
    let month ← pair e f
    let day ← pair g h
    if 1 ≤ month && month ≤ 12 && 1 ≤ day && day ≤ daysIn year month then
      return ([a, b, c, d, '-', e, f, '-', g, h], rest)
    else none
  | _ => none

/-- The fraction of a second at the front of a text: at most nine digits count, and zeros at the
end do not, the first place apart. -/
def fraction : List Char → Option (List Char × List Char)
  | '.' :: cs =>
    let ds := cs.takeWhile Char.isDigit
    if ds.isEmpty then none
    else
      let kept := ((ds.take 9).reverse.dropWhile (· == '0')).reverse
      some ('.' :: (if kept.isEmpty then ['0'] else kept), cs.dropWhile Char.isDigit)
  | cs => some ([], cs)

/-- The seconds at the front of a text, if there are any, with their fraction. -/
def seconds : List Char → Option (List Char × List Char)
  | ':' :: a :: b :: rest => do
    if 60 < (← pair a b) then none
    else
      let (text, rest) ← fraction rest
      return (':' :: a :: b :: text, rest)
  | cs => some ([], cs)

/-- The time at the front of a text, in its canonical form, and what follows it. -/
def time : List Char → Option (List Char × List Char)
  | a :: b :: ':' :: c :: d :: rest => do
    if 23 < (← pair a b) || 59 < (← pair c d) then none
    else
      let (text, rest) ← seconds rest
      return ([a, b, ':', c, d] ++ text, rest)
  | _ => none

/-- The offset at the end of a text, in its canonical form. -/
def offset : List Char → Option (List Char)
  | [] => some []
  | [c] => if c == 'Z' || c == 'z' then some ['Z'] else none
  | [s, a, b, ':', c, d] => do
    let hours ← pair a b
    let minutes ← pair c d
    if (s != '+' && s != '-') || 23 < hours || 59 < minutes then none
    else
      let sign := if hours == 0 && minutes == 0 then '+' else s
      return [sign, a, b, ':', c, d]
  | _ => none

/-- Does the character stand between a date and a time? -/
def isDateTimeMark (c : Char) : Bool := c == 'T' || c == 't' || c == ' '

/-- A date, a time, or both, in the canonical form. -/
def moment (cs : List Char) : Option (List Char) :=
  match date cs with
  | some (day, []) => some day
  | some (day, mark :: rest) => do
    if isDateTimeMark mark then
      let (text, rest) ← time rest
      return day ++ 'T' :: text ++ (← offset rest)
    else none
  | none =>
    match time cs with
    | some (text, []) => some text
    | _ => none

/-! ## All of them -/

/-- The value that an unquoted text stands for. -/
def scalar (cs : List Char) : Option Data :=
  match cs with
  | ['t', 'r', 'u', 'e'] => some (.bool true)
  | ['f', 'a', 'l', 's', 'e'] => some (.bool false)
  | '0' :: 'x' :: ds => basedInteger 16 isHexDigit ds
  | '0' :: 'o' :: ds => basedInteger 8 isOctalDigit ds
  | '0' :: 'b' :: ds => basedInteger 2 isBinaryDigit ds
  | '-' :: rest => number true rest
  | '+' :: rest => number false rest
  | _ => (number false cs).or ((moment cs).map fun t => .text (String.ofList t))

end AlarmMonitor.Settings.Toml
