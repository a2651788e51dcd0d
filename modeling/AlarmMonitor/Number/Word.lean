/-!
# Bounds of integers of 64 bits
-/

set_option autoImplicit false

namespace AlarmMonitor.Number

/-- 2⁶³: the integers with a sign lie below it, and not below its negation. -/
def signedBound : Nat := 9223372036854775808

/-- 2⁶⁴: the naturals lie below it. -/
def wordBound : Nat := 18446744073709551616

/-- The greatest natural of 64 bits. -/
def maxWord : Nat := wordBound - 1

theorem lt_wordBound_iff (n : Nat) : n < wordBound ↔ n ≤ maxWord := by
  simp only [maxWord, wordBound]
  omega

end AlarmMonitor.Number
