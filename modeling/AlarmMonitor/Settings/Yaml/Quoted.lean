import AlarmMonitor.Json.Lexer
import AlarmMonitor.Settings.Yaml.Cursor

/-!
# Quoted scalars of YAML

Between single quotes a quote is written twice; between double quotes there are escapes, and one of
them joins two lines.  Space around a line end counts as the line end alone, and every line must be
indented as far as the scalar's collection asks.
-/

set_option autoImplicit false

namespace AlarmMonitor.Settings.Yaml

/-! ## Escapes -/

/-- The characters meant by a letter behind a backslash. -/
def letterEscapes : List (Char × Char) :=
  [('0', '\x00'), ('a', '\x07'), ('b', '\x08'), ('t', '\t'), ('\t', '\t'), ('n', '\n'),
   ('v', '\x0b'), ('f', '\x0c'), ('r', '\r'), ('e', '\x1b'), (' ', ' '), ('"', '"'), ('/', '/'),
   ('\\', '\\'), ('N', '\x85'), ('_', '\xa0'), ('L', '\u2028'), ('P', '\u2029')]

/-- How many hexadecimal digits follow a letter behind a backslash. -/
def digitEscapes : List (Char × Nat) := [('x', 2), ('u', 4), ('U', 8)]

/-- The character of a code point in hexadecimal digits. -/
def point (digits : List Char) : Option Char := do
  let n := (← digits.mapM Json.Lexer.hexValue).foldl (fun n d => n * 16 + d) 0
  if (0xD800 ≤ n ∧ n ≤ 0xDFFF) ∨ 0x110000 ≤ n then none else some (Char.ofNat n)

/-- The escape behind a backslash, and its length. -/
def escape : List Char → Option (Char × Nat)
  | [] => none
  | c :: rest =>
    match letterEscapes.lookup c, digitEscapes.lookup c with
    | some d, _ => some (d, 1)
    | none, some count =>
      if rest.length < count then none else (point (rest.take count)).map (·, count + 1)
    | none, none => none

/-! ## Words and the space between them -/

/-- The part of a quoted scalar up to space or the closing quote: its characters, whether an escape
joins the next line to it, and the place behind it.  The fuel is more than the length of the
rest. -/
def quotedWord (quote : Char) : Nat → List Char → Cursor → Option (List Char × Bool × Cursor)
  | 0, _, _ => none
  | fuel + 1, acc, c =>
    match c.rest with
    | [] => some (acc.reverse, false, c)
    | d :: rest =>
      if isBlank d || isBreak d then some (acc.reverse, false, c)
      else if d = quote then
        if quote = '\'' && rest.head? == some '\'' then
          quotedWord quote fuel ('\'' :: acc) (c.pass 2)
        else some (acc.reverse, false, c)
      else if d = '\\' ∧ quote = '"' then
        if rest.head?.any isBreak then some (acc.reverse, true, (c.pass 1).passBreak)
        else do
          let (e, count) ← escape rest
          quotedWord quote fuel (e :: acc) (c.pass (count + 1))
      else quotedWord quote fuel (d :: acc) (c.pass 1)

/-- The space within a quoted scalar: the blanks before the first line end, the number of line ends,
and the place behind them.  `begun` says that a line has ended already, and `least` is the column up
to which a tab must not stand.  The fuel is more than the length of the rest. -/
def quotedGap (least : Int) : Nat → Bool → List Char → Nat → Cursor →
    Option (List Char × Nat × Cursor)
  | 0, _, _, _, _ => none
  | fuel + 1, begun, blanks, breaks, c =>
    match c.next with
    | none => some (blanks.reverse, breaks, c)
    | some d =>
      if isBreak d then quotedGap least fuel true blanks (breaks + 1) c.passBreak
      else if !isBlank d then some (blanks.reverse, breaks, c)
      else if !begun then quotedGap least fuel false (d :: blanks) 0 c.passBlank
      else if d == '\t' && (c.column : Int) < least then none
      else quotedGap least fuel true blanks breaks c.passBlank

/-- What the space within a quoted scalar stands for. -/
def gapText (joined : Bool) (blanks : List Char) (breaks : Nat) : List Char :=
  if joined then List.replicate breaks '\n'
  else if breaks = 0 then blanks
  else folded breaks

/-- The text up to the closing quote in parts, the last one first, and the place behind it.  The fuel
is greater by two than the length of the rest. -/
def quotedText (quote : Char) (least : Int) :
    Nat → List (List Char) → Cursor → Option (List (List Char) × Cursor)
  | 0, _, _ => none
  | fuel + 1, acc, c =>
    if c.rest.isEmpty || (c.column : Int) < least || (c.column == 0 && atAnyLimit c.rest) then none
    else do
      let (word, joined, c) ← quotedWord quote fuel [] c
      if c.next == some quote then return (word :: acc, c.pass 1)
      let (blanks, breaks, c) ← quotedGap least fuel joined [] 0 c
      quotedText quote least fuel (gapText joined blanks breaks :: word :: acc) c

/-- May this follow a quoted scalar, behind space?  A colon in a block must be on the line on which
the scalar began. -/
def followsQuoted (flow sameLine : Bool) (next : Option Char) : Bool :=
  endsLine next || (flow && next.any fun c => [',', ']', '\x7d', ':'].contains c) ||
    (!flow && sameLine && next == some ':')

/-- A quoted scalar with its opening quote, and the place behind the space that follows it. -/
def quotedScalar (flow : Bool) (least : Int) (quote : Char) (c : Cursor) :
    Option (String × Cursor) := do
  let (parts, closed) ← quotedText quote least (c.rest.length + 1) [] (c.pass 1)
  let after ← closed.behindSpace
  if followsQuoted flow (c.line == after.line) after.next then
    return (String.ofList (together parts), after)
  else none

end AlarmMonitor.Settings.Yaml
