/-!
# Classes of characters

A class of characters with a property is given by the ranges of their code points.
-/

set_option autoImplicit false

namespace AlarmMonitor.Text

/-- Is this number in one of the ranges, both ends included?  The ranges are ascending, so the
search ends at the first one that begins beyond it. -/
def inRanges (n : Nat) : List (Nat × Nat) → Bool
  | [] => false
  | (low, high) :: rest => if n < low then false else n ≤ high || inRanges n rest

/-- Below the first of ascending ranges there is nothing. -/
theorem inRanges_eq_false_of_lt {n low high : Nat} {rest : List (Nat × Nat)} (h : n < low) :
    inRanges n ((low, high) :: rest) = false := if_pos h

end AlarmMonitor.Text
