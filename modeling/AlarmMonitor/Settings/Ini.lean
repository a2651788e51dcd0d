import AlarmMonitor.Json.Lexer
import AlarmMonitor.Settings.Data
import AlarmMonitor.Text.Blank

/-!
# INI files

Keys with texts, one on a line, behind `=` or `:`; a line in brackets opens a section, which
becomes a table.  Backslashes escape characters everywhere, and parts of a text may stand between
quotes.  A comment takes a whole line.  An indented line always begins with a key, and it is
passed over if it has none.
-/

set_option autoImplicit false

namespace AlarmMonitor.Settings.Ini

open AlarmMonitor.Text (isBlank)

/-! ## Texts -/

/-- The character meant by a letter behind a backslash; a letter without a meaning stands for
itself. -/
def escaped (c : Char) : Char :=
  if c = '0' then '\x00'
  else if c = 'a' then '\x07'
  else if c = 'b' then '\x08'
  else if c = 't' then '\t'
  else if c = 'r' then '\r'
  else if c = 'n' then '\n'
  else c

/-- The character of hexadecimal digits, which may have a plus sign before them. -/
def point (digits : List Char) : Option Char := do
  let digits := match digits with
    | '+' :: rest => rest
    | _ => digits
  let n := (← digits.mapM Json.Lexer.hexValue).foldl (fun n d => n * 16 + d) 0
  if 0xD800 ≤ n ∧ n ≤ 0xDFFF then none else some (Char.ofNat n)

/-- The characters up to one of a class, and the rest from there; `canEnd` allows the text to end
before there is one.  Where this fails, the error is the text from the character that is not
understood on. -/
def upTo (stops : Char → Bool) (canEnd : Bool) (acc : List Char) :
    List Char → Except (List Char) (List Char × List Char)
  | [] => if canEnd then .ok (acc.reverse, []) else .error []
  | '\\' :: '\n' :: rest => upTo stops canEnd acc rest
  | '\\' :: 'x' :: a :: b :: c :: d :: rest =>
    match point [a, b, c, d] with
    | some p => upTo stops canEnd (p :: acc) rest
    | none => .error (match [a, b, c].dropWhile (· != '\\') with
      | [] => if d = '\\' then rest else d :: rest
      | _ :: behind => behind ++ d :: rest)
  | '\\' :: 'x' :: _ => .error []
  | '\\' :: c :: rest => upTo stops canEnd (escaped c :: acc) rest
  | ['\\'] => .error []
  | c :: rest =>
    if stops c then .ok (acc.reverse, c :: rest) else upTo stops canEnd (c :: acc) rest

def isLineEnd (c : Char) : Bool := c == '\n' || c == '\r'

/-- The text without the characters of a class at its end. -/
def trimEnd (p : Char → Bool) (cs : List Char) : List Char := (cs.reverse.dropWhile p).reverse

/-- The rest of the text of a key, behind quoted parts of it.  The fuel is more than the length of
the text. -/
def quotedParts : Nat → List Char → List Char → Option (List Char × List Char)
  | 0, _, _ => none
  | fuel + 1, acc, cs =>
    match cs with
    | [] => some (acc, [])
    | c :: rest =>
      if c = '"' ∨ c = '\'' then
        match upTo (· == c) false [] rest with
        | .ok (inner, rest) => quotedParts fuel (acc ++ inner) (rest.drop 1)
        | .error _ => none
      else
        match upTo isLineEnd true [] cs with
        | .ok (outer, rest) => some (acc ++ trimEnd isBlank outer, rest)
        | .error _ => none

/-- The text of a key, behind the mark: quoted parts, and the rest of the line.  Blanks around it
do not count. -/
def value (cs : List Char) : Option (List Char × List Char) :=
  let cs := cs.dropWhile fun c => isBlank c && !isLineEnd c
  if cs.head?.any fun c => c == '"' || c == '\'' then quotedParts (cs.length + 1) [] cs
  else
    match upTo isLineEnd true [] cs with
    | .ok (text, rest) => some (Text.trim text, rest)
    | .error _ => none

def isSpace (c : Char) : Bool := c == ' ' || c == '\t'

/-- Skips spaces and line ends up to an indented line; says whether the rest begins a line, if
`fresh` says it of the text. -/
def skipLayout (fresh : Bool) : List Char → Bool × List Char
  | [] => (fresh, [])
  | c :: rest =>
    if isSpace c then skipLayout false rest
    else if isLineEnd c then
      if rest.head?.any isSpace then (false, rest) else skipLayout (c == '\n') rest
    else (fresh, c :: rest)

/-! ## Lines -/

/-- What was read so far: the members of the root, and the section that is open. -/
structure Draft where
  root : List (String × Data)
  open? : Option (String × List (String × Data))

namespace Draft

/-- Puts the open section into the root. -/
def close (d : Draft) : List (String × Data) :=
  match d.open? with
  | some (name, members) => d.root ++ [(name, .table members)]
  | none => d.root

/-- Opens a section. -/
def openSection (d : Draft) (name : String) : Draft := ⟨d.close, some (name, [])⟩

/-- Adds a key to the open section, or to the root before the first one. -/
def add (d : Draft) (key value : String) : Draft :=
  match d.open? with
  | some (name, members) => { d with open? := some (name, members ++ [(key, .text value)]) }
  | none => { d with root := d.root ++ [(key, .text value)] }

end Draft

def isMark (c : Char) : Bool := c == '=' || c == ':'

/-- Adds a key and the text behind its mark; the key must not be empty. -/
def pair (d : Draft) (name cs : List Char) : Option (Draft × List Char) := do
  let key := Text.trim name
  if key.isEmpty then none
  else
    let (text, rest) ← value (cs.drop 1)
    return (d.add (String.ofList key) (String.ofList text), rest)

/-- Reads what stands at the front of a text: a comment, a section, or a key with its text. -/
def line (d : Draft) (fresh : Bool) (cs : List Char) : Option (Draft × Bool × List Char) :=
  match cs with
  | [] => some (d, fresh, [])
  | c :: rest =>
    if c = ';' ∨ c = '#' then
      if fresh then some (d, true, (rest.dropWhile (· != '\n')).drop 1) else none
    else if c = '[' then
      match upTo (· == ']') false [] rest with
      | .ok (name, rest) =>
        some (d.openSection (String.ofList (Text.trim name)), false, rest.drop 1)
      | .error _ => none
    else
      match upTo isMark false [] (cs.dropWhile isSpace) with
      | .ok (name, rest) => (pair d name rest).map fun (d, rest) => (d, false, rest)
      | .error rest => if isSpace c then some (d, false, rest.drop 1) else none

/-- Reads the lines of a text.  The fuel is more than the length of the text. -/
def lines : Nat → Draft → Bool → List Char → Option Draft
  | 0, _, _, _ => none
  | fuel + 1, d, fresh, cs =>
    match skipLayout fresh cs with
    | (_, []) => some d
    | (fresh, cs) => do
      let (d, fresh, rest) ← line d fresh cs
      lines fuel d fresh rest

/-- The members of the table that a text holds. -/
def read (s : String) : Option (List (String × Data)) :=
  let cs := s.toList
  (lines (cs.length + 1) ⟨[], none⟩ true cs).map Draft.close

end AlarmMonitor.Settings.Ini
