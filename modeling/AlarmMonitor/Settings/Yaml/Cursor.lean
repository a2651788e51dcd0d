/-!
# A place in a text of YAML

A cursor is what is left of the text with the place where it begins.  Passing a character that is
not blank ends the space at the front of a line; passing a line end begins a new line.
-/

set_option autoImplicit false

namespace AlarmMonitor.Settings.Yaml

/-! ## Classes of characters -/

/-- Does the character end a line? -/
def isBreak (c : Char) : Bool := c == '\n' || c == '\r'

/-- Is the character space within a line? -/
def isBlank (c : Char) : Bool := c == ' ' || c == '\t'

/-- Does the character stand between the items of a collection in brackets or around it? -/
def isFlowMark (c : Char) : Bool := [',', '[', ']', '\x7b', '\x7d'].contains c

/-- May the character stand in a name? -/
def isWordChar (c : Char) : Bool := c.isAlphanum || c == '_' || c == '-'

/-- Does the line end before this character, or with the text? -/
def endsLine (next : Option Char) : Bool := !next.any fun c => !isBreak c

/-- Does a word end before this character, or with the text? -/
def endsWord (next : Option Char) : Bool := !next.any fun c => !(isBlank c || isBreak c)

/-- Do three of a character stand here that mark the limit of a document? -/
def atLimit (c : Char) : List Char → Bool
  | a :: b :: d :: rest => a == c && b == c && d == c && endsWord rest.head?
  | _ => false

/-- Does the limit of a document stand here? -/
def atAnyLimit (cs : List Char) : Bool := atLimit '-' cs || atLimit '.' cs

/-! ## The cursor -/

/-- What is left of a text, the number of characters before it, and its line and column.  `leading`
says that only space is before it on its line. -/
structure Cursor where
  rest : List Char
  index : Nat
  line : Nat
  column : Nat
  leading : Bool
  deriving Repr

namespace Cursor

/-- The beginning of a text. -/
def ofText (cs : List Char) : Cursor := ⟨cs, 0, 0, 0, true⟩

/-- The next character. -/
def next (c : Cursor) : Option Char := c.rest.head?

/-- The character behind the next one. -/
def second (c : Cursor) : Option Char := (c.rest.drop 1).head?

/-- Passes blank characters. -/
def passBlanks (c : Cursor) (count : Nat) : Cursor :=
  { c with rest := c.rest.drop count, index := c.index + count, column := c.column + count }

/-- Passes a blank character. -/
def passBlank (c : Cursor) : Cursor := c.passBlanks 1

/-- Passes characters that are not blank. -/
def pass (c : Cursor) (count : Nat) : Cursor :=
  { c.passBlanks count with leading := c.leading && count == 0 }

/-- Passes a line end, which may be of two characters. -/
def passBreak (c : Cursor) : Cursor :=
  let count := match c.rest with
    | '\r' :: '\n' :: _ => 2
    | _ => 1
  ⟨c.rest.drop count, c.index + count, c.line + 1, 0, true⟩

/-- Passes the rest of the line. -/
def passLine (c : Cursor) : Cursor := c.pass (c.rest.takeWhile fun d => !isBreak d).length

/-- Passes the characters of a class at the front of the rest. -/
def passWhile (p : Char → Bool) (c : Cursor) : List Char × Cursor :=
  let cs := c.rest.takeWhile p
  (cs, c.pass cs.length)

/-- Space that was passed: whether it had tabs or blanks, and the place behind it. -/
structure Space where
  tabs : Bool
  blanks : Bool
  after : Cursor

/-- Passes the space on a line, tabs only if they are allowed, and a comment behind it.  A comment
needs space before it. -/
def passSpace (c : Cursor) (tabs : Bool) : Option Space :=
  let space := c.rest.takeWhile fun d => d == ' ' || (tabs && d == '\t')
  let after := c.passBlanks space.length
  if after.next == some '#' && space.isEmpty then none
  else
    some ⟨space.contains '\t', space.contains ' ',
      if after.next == some '#' then after.passLine else after⟩

/-- Behind the space of a line, tabs too. -/
def behindSpace (c : Cursor) : Option Cursor := (c.passSpace true).map (·.after)

theorem length_rest_passBreak_le (c : Cursor) : c.passBreak.rest.length ≤ c.rest.length := by
  simp only [passBreak, List.length_drop]
  omega

end Cursor

/-! ## Texts of several lines -/

/-- The text of parts that were collected with the last one first. -/
def together (parts : List (List Char)) : List Char := parts.reverse.flatten

theorem together_cons (part : List Char) (parts : List (List Char)) :
    together (part :: parts) = together parts ++ part := by
  simp [together]

/-- What a row of line ends stands for: one is a space, and of more every further one stands for
itself. -/
def folded : Nat → List Char
  | 0 => []
  | 1 => [' ']
  | n + 2 => List.replicate (n + 1) '\n'

end AlarmMonitor.Settings.Yaml
