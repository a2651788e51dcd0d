import AlarmMonitor.Number.Double

/-!
# The shortest decimal text of a double

`Double.shortest` finds the fewest decimal digits that read back as the same double, and among
those of that length the ones nearest to it.  `Layout` holds the decisions of a notation: where
the positional form ends and how an exponent is written.
-/

set_option autoImplicit false

namespace AlarmMonitor.Number

/-- Decimal digits `d₀ d₁ …` standing for `d₀.d₁… * 10 ^ exponent`. -/
structure Decimal where
  digits : List Nat
  exponent : Int
  deriving DecidableEq, Repr, Inhabited

namespace Double

/-- Decimal digits of a natural, most significant first. -/
def digitsOf (n : Nat) : List Nat := (Nat.toDigits 10 n).map fun c => c.toNat - '0'.toNat

/-- Is `a / b ≤ c / d`, for positive denominators? -/
def ratioLe (a b c d : Nat) : Bool := a * d ≤ c * b

/-- Four times the distance from the magnitude to the lower end of the reals that round to it, in
units of the last place. -/
def lowerGap (d : Double) : Nat :=
  if d.mantissa = leastMantissa ∧ leastExponent < d.exponent then 1 else 2

/-- Does `c * 10 ^ e` round to the magnitude of `d`?  The ends of the interval belong to it
exactly if the mantissa is even. -/
def covers (d : Double) (c : Nat) (e : Int) : Bool :=
  let unit := d.exponent - 2
  let scale := powNum 2 unit
  let low := (4 * d.mantissa - d.lowerGap) * scale
  let high := (4 * d.mantissa + 2) * scale
  let den := powDen 2 unit
  let num := c * powNum 10 e
  let cden := powDen 10 e
  if d.mantissa % 2 = 0 then
    ratioLe low den num cden && ratioLe num cden high den
  else
    !ratioLe num cden low den && !ratioLe high den num cden

/-- The greatest `k` with `10 ^ k` not above the magnitude of a double other than zero. -/
def decimalExponent (d : Double) : Int :=
  let guess := ((Nat.log2 d.mantissa : Int) + d.exponent) * 1233 / 4096
  let reaches (k : Int) : Bool := ratioLe (powNum 10 k) (powDen 10 k) d.num d.den
  if reaches (guess + 1) then guess + 1
  else if reaches guess then guess
  else guess - 1

/-- The candidate with the unit `10 ^ e`: of the two neighbours of the magnitude on that grid
those that read back, and of two the nearer one, an exact tie going to the even one. -/
def candidate (d : Double) (e : Int) : Option Nat :=
  let num := d.num * powDen 10 e
  let den := d.den * powNum 10 e
  let c := num / den
  match d.covers c e, d.covers (c + 1) e with
  | true, true =>
    let r := num % den
    if 2 * r < den then some c
    else if den < 2 * r then some (c + 1)
    else if c % 2 = 0 then some c else some (c + 1)
  | true, false => some c
  | false, true => some (c + 1)
  | false, false => none

/-- The first grid with a candidate, from the coarse to the fine; `e` is the exponent of the unit
and `fuel` the number of finer grids left. -/
def searchGrids (d : Double) : Nat → Int → Nat × Int
  | 0, e => ((d.candidate e).getD 0, e)
  | fuel + 1, e =>
    match d.candidate e with
    | some c => (c, e)
    | none => searchGrids d fuel (e - 1)

/-- Removes the zeros at the end of a nonempty row of digits. -/
def trimZeros (ds : List Nat) : List Nat := (ds.reverse.dropWhile (· == 0)).reverse

/-- The shortest digits of a double; zero has the single digit zero. -/
def shortest (d : Double) : Decimal :=
  if d.isZero then ⟨[0], 0⟩
  else
    let (c, e) := d.searchGrids 17 d.decimalExponent
    let ds := digitsOf c
    ⟨trimZeros ds, e + (ds.length - 1 : Nat)⟩

end Double

/-- The decisions of a decimal notation. -/
structure Layout where
  /-- Exponents written positionally; all of them if absent. -/
  positional : Option (Int × Int)
  /-- Is `.0` put behind a whole number in positional form? -/
  pointZero : Bool
  /-- Is a plus sign written before an exponent that is not negative? -/
  plus : Bool
  deriving DecidableEq, Repr

namespace Layout

/-- The character of a decimal digit. -/
def digitChar (d : Nat) : Char := Char.ofNat ('0'.toNat + d)

/-- The positional form of digits with the point after place `exponent`. -/
def positionalText (l : Layout) (x : Decimal) : List Char :=
  let ds := x.digits.map digitChar
  if x.exponent < 0 then
    '0' :: '.' :: (List.replicate ((-x.exponent).toNat - 1) '0' ++ ds)
  else
    let whole := x.exponent.toNat + 1
    if ds.length ≤ whole then
      ds ++ List.replicate (whole - ds.length) '0' ++ (if l.pointZero then ['.', '0'] else [])
    else
      ds.take whole ++ '.' :: ds.drop whole

/-- The form with an exponent. -/
def scientificText (l : Layout) (x : Decimal) : List Char :=
  let ds := x.digits.map digitChar
  let mantissa := match ds with
    | [] => []
    | [c] => [c]
    | c :: rest => c :: '.' :: rest
  let sign := if x.exponent < 0 then ['-'] else if l.plus then ['+'] else []
  mantissa ++ 'e' :: (sign ++ Nat.toDigits 10 x.exponent.natAbs)

/-- The text of a double in this notation. -/
def text (l : Layout) (d : Double) : List Char :=
  let x := d.shortest
  let body := match l.positional with
    | none => l.positionalText x
    | some (low, high) =>
      if low ≤ x.exponent && x.exponent ≤ high then l.positionalText x else l.scientificText x
  if d.negative then '-' :: body else body

end Layout

end AlarmMonitor.Number
