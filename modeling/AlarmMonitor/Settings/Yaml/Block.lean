import AlarmMonitor.Settings.Yaml.Cursor

/-!
# Block scalars of YAML

A text of whole lines with the same indentation, behind a header.  In the folded style a line end
between two lines that do not begin with space counts as a space.  The header tells what becomes of
the line ends behind the text, and how far it is indented if its first line cannot tell.
-/

set_option autoImplicit false

namespace AlarmMonitor.Settings.Yaml

/-- What becomes of the line ends behind a block scalar: the first one stays, none stays, or all
stay. -/
inductive Chomping where
  | clip
  | strip
  | keep
  deriving DecidableEq, Repr

/-! ## The header -/

/-- The chomping of a sign. -/
def Chomping.ofChar (c : Char) : Option Chomping :=
  if c = '+' then some .keep else if c = '-' then some .strip else none

/-- The indentation of a digit other than zero. -/
def indentOf (c : Char) : Option Nat := if c.isDigit then some (c.toNat - '0'.toNat) else none

/-- The header of a block scalar behind its mark: the chomping, the indentation if it is written, and
the number of characters.  The two may stand in either order. -/
def blockHeader (cs : List Char) : Chomping × Option Nat × Nat :=
  match cs.head?.bind Chomping.ofChar, cs.head?.bind indentOf with
  | some chomping, _ =>
    match (cs.drop 1).head?.bind indentOf with
    | some n => (chomping, some n, 2)
    | none => (chomping, none, 1)
  | none, some n =>
    match (cs.drop 1).head?.bind Chomping.ofChar with
    | some chomping => (chomping, some n, 2)
    | none => (.clip, some n, 1)
  | none, none => (.clip, none, 0)

/-! ## Empty lines -/

/-- Passes empty lines and the indentation of the next one, up to a column: the number of line ends,
and the place.  The fuel is more than the length of the rest. -/
def passIndent (indent : Nat) : Nat → Nat → Cursor → Nat × Cursor
  | 0, breaks, c => (breaks, c)
  | fuel + 1, breaks, c =>
    let spaces := (c.rest.takeWhile (· == ' ')).length
    let c := c.passBlanks (min spaces (indent - c.column))
    if c.next.any isBreak then passIndent indent fuel (breaks + 1) c.passBreak else (breaks, c)

/-- Passes empty lines and all spaces before the first text: the number of line ends, the greatest
column, and the place.  The fuel is more than the length of the rest. -/
def findIndent : Nat → Nat → Nat → Cursor → Nat × Nat × Cursor
  | 0, breaks, most, c => (breaks, most, c)
  | fuel + 1, breaks, most, c =>
    let c := c.passBlanks (c.rest.takeWhile (· == ' ')).length
    let most := max most c.column
    if c.next.any isBreak then findIndent fuel (breaks + 1) most c.passBreak else (breaks, most, c)

/-! ## The text -/

/-- Lines of a block scalar: the parts of the text so far, the last one first, the number of line ends
between the last line and the next one, and whether the last line began with space. -/
structure BlockText where
  parts : List (List Char)
  breaks : Nat
  spaced : Bool

namespace BlockText

/-- The line ends before the next line. -/
def gap (t : BlockText) (isFolded nextSpaced : Bool) : List Char :=
  if isFolded && !t.spaced && !nextSpaced then folded t.breaks else List.replicate t.breaks '\n'

/-- Adds a line, behind which some line ends were passed. -/
def add (t : BlockText) (isFolded spaced : Bool) (line : List Char) (breaks : Nat) : BlockText :=
  ⟨line :: t.gap isFolded spaced :: t.parts, breaks, spaced⟩

end BlockText

/-- Reads the lines from this place on, as long as they have the indentation.  The fuel is greater by
two than the length of the rest. -/
def blockLines (isFolded : Bool) (indent : Nat) : Nat → BlockText → Cursor → BlockText × Cursor
  | 0, t, c => (t, c)
  | fuel + 1, t, c =>
    if c.column != indent || c.rest.isEmpty || (indent == 0 && atLimit '.' c.rest) then (t, c)
    else
      let spaced := c.next.any isBlank
      let line := c.rest.takeWhile fun d => !isBreak d
      let c := c.pass line.length
      if c.rest.isEmpty then (t.add isFolded spaced line 0, c)
      else
        let (breaks, c) := passIndent indent fuel 0 c.passBreak
        blockLines isFolded indent fuel (t.add isFolded spaced line (breaks + 1)) c

/-- The text with the line ends behind it that stay.  At the end of the input the last line need
not be ended. -/
def chomped (chomping : Chomping) (t : BlockText) (indent : Nat) (after : Cursor) : List Char :=
  let first := if 0 < t.breaks then ['\n'] else []
  let last := if after.rest.isEmpty && max indent 1 ≤ after.column then ['\n'] else []
  match chomping with
  | .strip => together t.parts
  | .clip => together t.parts ++ first ++ last
  | .keep => together t.parts ++ first ++ last ++ List.replicate (t.breaks - 1) '\n'

/-- A text of line ends alone, at the end of the input; `ended` says that the line of the header
ends before it. -/
def chompedEmpty (chomping : Chomping) (ended : Bool) (breaks : Nat) : List Char :=
  if chomping = .strip || !ended then []
  else if chomping = .keep then List.replicate (max breaks 1) '\n'
  else ['\n']

/-- A block scalar with its mark, inside a collection at a column, and the place behind it. -/
def blockScalar (outer : Int) (c : Cursor) : Option (String × Cursor) := do
  let isFolded := c.next == some '>'
  let (chomping, written, count) := blockHeader (c.rest.drop 1)
  let header ← (c.pass (count + 1)).behindSpace
  if written == some 0 || !endsLine header.next then none
  let body := if header.rest.isEmpty then header else header.passBreak
  if body.next == some '\t' then none
  let (breaks, indent, first) := match written with
    | some n =>
      let indent := if 0 ≤ outer then outer.toNat + n else n
      let (breaks, first) := passIndent indent (body.rest.length + 1) 0 body
      (breaks, indent, first)
    | none =>
      let (breaks, most, first) := findIndent (body.rest.length + 1) 0 0 body
      (breaks, max most (outer + 1).toNat, first)
  if first.rest.isEmpty then
    return (String.ofList (chompedEmpty chomping (!header.rest.isEmpty) breaks), first)
  else if first.column < indent && outer < (first.column : Int) then none
  else
    let (t, after) := blockLines isFolded indent (first.rest.length + 2) ⟨[], breaks, true⟩ first
    return (String.ofList (chomped chomping t indent after), after)

end AlarmMonitor.Settings.Yaml
