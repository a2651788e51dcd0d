/-!
# Finite binary numbers of double precision

A finite double is a sign and a magnitude `mantissa * 2 ^ exponent`.  Everything here is exact
arithmetic on naturals; the only inexact step is `Double.nearest`, which rounds a ratio of
naturals to the nearest double and a tie to the one with the even mantissa.  Multiplication,
division and powers of ten are that one step applied to the exact result.
-/

set_option autoImplicit false

namespace AlarmMonitor.Number

/-- A finite double.  Values built by `Double.nearest` are canonical: the mantissa has 53 bits,
or the exponent is the least one, `-1074`. -/
structure Double where
  negative : Bool
  mantissa : Nat
  exponent : Int
  deriving DecidableEq, Repr, Inhabited

namespace Double

/-- The exponent of the smallest positive double. -/
def leastExponent : Int := -1074

/-- The greatest exponent a double can have beside a mantissa of 53 bits. -/
def greatestExponent : Int := 971

/-- The least mantissa of 53 bits, 2⁵². -/
def leastMantissa : Nat := 4503599627370496

/-- Zero, with either sign. -/
def zero (negative : Bool) : Double := ⟨negative, 0, leastExponent⟩

def isZero (d : Double) : Bool := d.mantissa == 0

/-- The magnitude with the given sign. -/
def withSign (d : Double) (negative : Bool) : Double := { d with negative }

/-- The numerator of `base ^ e` written as a fraction of naturals. -/
def powNum (base : Nat) (e : Int) : Nat := Nat.pow base e.toNat

/-- The denominator of `base ^ e` written as a fraction of naturals. -/
def powDen (base : Nat) (e : Int) : Nat := Nat.pow base (-e).toNat

/-- The magnitude as a numerator. -/
def num (d : Double) : Nat := d.mantissa * powNum 2 d.exponent

/-- The magnitude as a denominator. -/
def den (d : Double) : Nat := powDen 2 d.exponent

/-- The quotient rounded to the nearest natural, a tie to the even one. -/
def roundQuotient (n d : Nat) : Nat :=
  let q := n / d
  let r := n % d
  if 2 * r < d then q
  else if d < 2 * r then q + 1
  else if q % 2 = 0 then q else q + 1

/-- The exponent at which a positive ratio has a mantissa of 53 bits, but never less than the
least exponent. -/
def exponentOf (n d : Nat) : Int :=
  let e : Int := (Nat.log2 n : Int) - (Nat.log2 d : Int) - 52
  let tight := if n * powDen 2 (e + 52) < d * powNum 2 (e + 52) then e - 1 else e
  max tight leastExponent

/-- The double nearest to `n / d` with the given sign; `none` if the ratio is beyond the largest
double. -/
def nearest (negative : Bool) (n d : Nat) : Option Double :=
  if n = 0 then some (zero negative)
  else
    let e := exponentOf n d
    let m := roundQuotient (n * powDen 2 e) (d * powNum 2 e)
    let (m, e) := if m = 2 * leastMantissa then (leastMantissa, e + 1) else (m, e)
    if greatestExponent < e then none else some ⟨negative, m, e⟩

/-- The double nearest to a natural. -/
def ofNat (n : Nat) : Option Double := nearest false n 1

/-- The double nearest to `digits * 10 ^ exponent`. -/
def ofDecimal (negative : Bool) (digits : Nat) (exponent : Int) : Option Double :=
  if digits = 0 then some (zero negative)
  else
    let size : Int := (Nat.log2 digits : Int) / 4 + exponent
    if 400 < size then none
    else if (Nat.log2 digits : Int) + exponent < -400 then some (zero negative)
    else nearest negative (digits * powNum 10 exponent) (powDen 10 exponent)

/-- The product of two doubles, rounded. -/
def mul (a b : Double) : Option Double :=
  nearest (a.negative != b.negative) (a.num * b.num) (a.den * b.den)

/-- The quotient of two doubles, rounded; the divisor is not zero. -/
def div (a b : Double) : Option Double :=
  nearest (a.negative != b.negative) (a.num * b.den) (a.den * b.num)

/-- The double nearest to a power of ten; `none` beyond the largest double. -/
def powerOfTen (k : Nat) : Option Double := ofDecimal false 1 k

/-- The nearest integer to the magnitude, a half away from zero. -/
def roundMagnitude (d : Double) : Nat := (2 * d.num + d.den) / (2 * d.den)

end Double

end AlarmMonitor.Number
