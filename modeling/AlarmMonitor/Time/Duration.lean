/-!
# Spans of time

A span is a number of nanoseconds, and an instant is a number of nanoseconds of a clock.  The text
of a span takes the coarsest of `s`, `ms`, `µs` and `ns` in
which the whole part is not zero, and writes the rest as a decimal fraction without zeros at the
end.
-/

set_option autoImplicit false

namespace AlarmMonitor

/-- A span of time in nanoseconds. -/
structure Duration where
  nanos : Nat
  deriving DecidableEq, Repr, Inhabited

namespace Duration

/-- The span of so many milliseconds. -/
def ofMillis (ms : Nat) : Duration := ⟨ms * 1000000⟩

/-- The span of so many microseconds. -/
def ofMicros (us : Nat) : Duration := ⟨us * 1000⟩

/-- The span from one instant to another; none if the other is earlier. -/
def between (earlier later : Nat) : Duration := ⟨later - earlier⟩

instance : LT Duration := ⟨fun a b => a.nanos < b.nanos⟩

instance : LE Duration := ⟨fun a b => a.nanos ≤ b.nanos⟩

instance (a b : Duration) : Decidable (a < b) := inferInstanceAs (Decidable (a.nanos < b.nanos))

instance (a b : Duration) : Decidable (a ≤ b) := inferInstanceAs (Decidable (a.nanos ≤ b.nanos))

/-- The longer of two spans. -/
def max (a b : Duration) : Duration := if a < b then b else a

/-- Whole seconds. -/
def seconds (d : Duration) : Nat := d.nanos / 1000000000

/-- Nanoseconds beside the whole seconds. -/
def subsecondNanos (d : Duration) : Nat := d.nanos % 1000000000

/-- Whole milliseconds. -/
def millis (d : Duration) : Nat := d.nanos / 1000000

/-- The least number of milliseconds that is not shorter than the span.  An alarm that rings on
whole milliseconds only rings after so many of them. -/
def ticks (d : Duration) : Nat := (d.nanos + 999999) / 1000000

/-- A number below `10 ^ width` as a fraction of one, without zeros at the end. -/
def fractionText (width n : Nat) : List Char :=
  let ds := Nat.toDigits 10 n
  let padded := List.replicate (width - ds.length) '0' ++ ds
  (padded.reverse.dropWhile (· == '0')).reverse

/-- `n` units of which `scale = 10 ^ width` make one `unit`. -/
def inUnit (n scale width : Nat) (unit : String) : String :=
  let fraction := fractionText width (n % scale)
  toString (n / scale) ++ (if fraction.isEmpty then "" else "." ++ String.ofList fraction) ++ unit

/-- The text of a span. -/
def text (d : Duration) : String :=
  if 1000000000 ≤ d.nanos then inUnit d.nanos 1000000000 9 "s"
  else if 1000000 ≤ d.nanos then inUnit d.nanos 1000000 6 "ms"
  else if 1000 ≤ d.nanos then inUnit d.nanos 1000 3 "µs"
  else inUnit d.nanos 1 0 "ns"

end Duration

end AlarmMonitor
