import AlarmMonitor.Number.Binary

/-!
# Rounding to single precision

A number of single precision has a mantissa of 24 bits.  It is kept as a double, of which it is a
special case; what is rounded is the written value, and not a double of it.
-/

set_option autoImplicit false

namespace AlarmMonitor.Number.Single

/-- The exponent of the smallest positive number. -/
def leastExponent : Int := -149

/-- The greatest exponent a number can have beside a mantissa of 24 bits. -/
def greatestExponent : Int := 104

/-- 2²⁴, which a mantissa stays below. -/
def mantissaBound : Nat := 16777216

/-- The number nearest to `n / d` with the given sign; `none` if the ratio is beyond the largest
one. -/
def nearest (negative : Bool) (n d : Nat) : Option Double :=
  let rough : Int := (Nat.log2 n : Int) - (Nat.log2 d : Int) - 23
  let tight := n * Double.powDen 2 (rough + 23) < d * Double.powNum 2 (rough + 23)
  let e := max (if tight then rough - 1 else rough) leastExponent
  let m := Double.roundQuotient (n * Double.powDen 2 e) (d * Double.powNum 2 e)
  if greatestExponent < e ∨ (e = greatestExponent ∧ m = mantissaBound) then none
  else Double.nearest negative (m * Double.powNum 2 e) (Double.powDen 2 e)

/-- The number nearest to a literal.  Far out of the range there is no need to compute. -/
def ofLiteral (l : Literal) : Binary :=
  let fraction := l.fraction.getD []
  let digits := ofDigits (l.whole ++ fraction)
  let exponent := l.exponentValue - fraction.length
  let size := (Nat.log2 digits : Int)
  if digits = 0 ∨ size + exponent < -100 then .finite (Double.zero l.negative)
  else if 100 < size / 4 + exponent then .infinite l.negative
  else
    (nearest l.negative (digits * Double.powNum 10 exponent) (Double.powDen 10 exponent)).elim
      (.infinite l.negative) .finite

end AlarmMonitor.Number.Single
