/-!
# Blank characters

The characters with the Unicode property `White_Space`, and trimming by them.
-/

set_option autoImplicit false

namespace AlarmMonitor.Text

/-- Code points with the property `White_Space`. -/
def blankPoints : List Nat :=
  [0x09, 0x0A, 0x0B, 0x0C, 0x0D, 0x20, 0x85, 0xA0, 0x1680, 0x2000, 0x2001, 0x2002, 0x2003, 0x2004,
   0x2005, 0x2006, 0x2007, 0x2008, 0x2009, 0x200A, 0x2028, 0x2029, 0x202F, 0x205F, 0x3000]

/-- Is the character white space? -/
def isBlank (c : Char) : Bool := blankPoints.contains c.toNat

/-- Every character that core counts as white space is blank. -/
theorem isBlank_of_isWhitespace {c : Char} (h : c.isWhitespace = true) : isBlank c = true := by
  simp only [Char.isWhitespace, Bool.or_eq_true, decide_eq_true_eq] at h
  rcases h with ((rfl | rfl) | rfl) | rfl <;> decide

/-- Does a text consist of white space only?  The empty text does. -/
def isBlankText (s : String) : Bool := s.toList.all isBlank

/-- The characters without the matching ones at both ends. -/
def trimBy (p : Char → Bool) (cs : List Char) : List Char :=
  ((cs.dropWhile p).reverse.dropWhile p).reverse

/-- The text without white space at both ends. -/
def trim (cs : List Char) : List Char := trimBy isBlank cs

end AlarmMonitor.Text
