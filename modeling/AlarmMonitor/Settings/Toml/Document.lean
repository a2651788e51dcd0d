import AlarmMonitor.Settings.Toml.Quoted
import AlarmMonitor.Settings.Toml.Scalar
import AlarmMonitor.Settings.Toml.Table

/-!
# TOML documents

A document is a row of statements, one on a line: a header, or a key and its value.  Reading is in
two passes: the statements of a text, and the table they build.
-/

set_option autoImplicit false

namespace AlarmMonitor.Settings.Toml

/-! ## Space -/

def skipSpace (cs : List Char) : List Char := cs.dropWhile isSpace

/-- The rest of a line behind `#`; control characters may not stand in it. -/
def skipComment : List Char → Option (List Char)
  | [] => some []
  | '\n' :: rest => some ('\n' :: rest)
  | '\r' :: '\n' :: rest => some ('\r' :: '\n' :: rest)
  | c :: rest => if isPlain c then skipComment rest else none

/-- What follows on this line, spaces and a comment aside. -/
def skipTrailing (cs : List Char) : Option (List Char) :=
  match skipSpace cs with
  | '#' :: rest => skipComment rest
  | rest => some rest

/-- What follows spaces, comments and line ends.  The fuel is the number of lines at most. -/
def skipLines : Nat → List Char → Option (List Char)
  | 0, cs => some cs
  | fuel + 1, cs => do
    let rest ← skipTrailing cs
    match rest with
    | '\n' :: rest => skipLines fuel rest
    | '\r' :: '\n' :: rest => skipLines fuel rest
    | _ => return rest

/-! ## Keys -/

def isKeyChar (c : Char) : Bool := c.isAlphanum || c == '_' || c == '-'

/-- A name without dots. -/
def simpleKey (cs : List Char) : Option (String × List Char) :=
  match cs.takeWhile isKeyChar with
  | [] => quotedLine cs
  | name => some (String.ofList name, cs.dropWhile isKeyChar)

/-- The greatest number of names in a key, of arrays and inline tables inside each other. -/
def maxDepth : Nat := 80

/-- A key, and what follows it and the spaces behind it; it may have so many names. -/
def keyUpTo : Nat → List Char → Option (List String × List Char)
  | 0, _ => none
  | names + 1, cs => do
    let (name, rest) ← simpleKey (skipSpace cs)
    match skipSpace rest with
    | '.' :: rest => do
      let (more, rest) ← keyUpTo names rest
      return (name :: more, rest)
    | rest => return ([name], rest)

/-- A key, and what follows it and the spaces behind it. -/
def key (cs : List Char) : Option (List String × List Char) := keyUpTo maxDepth cs

/-! ## Values -/

/-- Does the character end an unquoted value? -/
def endsScalar (c : Char) : Bool :=
  isSpace c || c == '\n' || c == '\r' || c == ',' || c == ']' || c == '\x7d' || c == '#' || c == '='

/-- Does a time follow on a date with a space between them? -/
def continuesDate (token rest : List Char) : Bool :=
  (match date token with
    | some (_, []) => true
    | _ => false) &&
  (match rest with
    | ' ' :: a :: b :: ':' :: _ => a.isDigit && b.isDigit
    | _ => false)

/-- An unquoted value at the front of a text. -/
def unquoted (cs : List Char) : Option (Data × List Char) :=
  let (token, rest) := splitAt endsScalar cs
  let (token, rest) :=
    if continuesDate token rest then
      let (more, rest) := splitAt endsScalar (rest.drop 1)
      (token ++ ' ' :: more, rest)
    else (token, rest)
  (scalar token).map (·, rest)

mutual

/-- A value at the front of a text.  The fuel is the length of the text; `depth` is the number of
brackets that may still be opened. -/
def value : Nat → Nat → List Char → Option (Data × List Char)
  | 0, _, _ => none
  | fuel + 1, depth, cs =>
    match cs with
    | '[' :: rest => if depth = 0 then none else items fuel (depth - 1) [] rest
    | '\x7b' :: rest => if depth = 0 then none else pairs fuel (depth - 1) [] rest
    | '"' :: _ => (quotedText cs).map fun (s, rest) => (.text s, rest)
    | '\'' :: _ => (quotedText cs).map fun (s, rest) => (.text s, rest)
    | _ => unquoted cs

/-- The items of an array behind its bracket or a comma; `acc` holds those before, the last one
first. -/
def items : Nat → Nat → List Data → List Char → Option (Data × List Char)
  | 0, _, _, _ => none
  | fuel + 1, depth, acc, cs => do
    match ← skipLines cs.length cs with
    | ']' :: rest => return (.array acc.reverse, rest)
    | cs =>
      let (v, rest) ← value fuel depth cs
      match ← skipLines rest.length rest with
      | ',' :: rest => items fuel depth (v :: acc) rest
      | ']' :: rest => return (.array (v :: acc).reverse, rest)
      | _ => none

/-- The members of an inline table behind its brace or a comma.  Lines may end anywhere in it but
in a key. -/
def pairs : Nat → Nat → Members → List Char → Option (Data × List Char)
  | 0, _, _, _ => none
  | fuel + 1, depth, ms, cs => do
    match ← skipLines cs.length cs with
    | '\x7d' :: rest => return (.table (membersData ms), rest)
    | cs =>
      let (path, rest) ← key cs
      match ← skipLines rest.length rest with
      | '=' :: rest =>
        let (v, rest) ← value fuel depth (← skipLines rest.length rest)
        let ms ← ms.insertKey v path
        match ← skipLines rest.length rest with
        | ',' :: rest => pairs fuel depth ms rest
        | '\x7d' :: rest => return (.table (membersData ms), rest)
        | _ => none
      | _ => none

end

/-! ## Statements -/

inductive Statement where
  /-- The keys that follow belong to this table. -/
  | table (path : List String)
  /-- The keys that follow belong to one more table of this array. -/
  | item (path : List String)
  | pair (path : List String) (value : Data)

/-- A statement at the front of a text. -/
def statement : List Char → Option (Statement × List Char)
  | '[' :: '[' :: rest => do
    match ← key rest with
    | (path, ']' :: ']' :: rest) => return (.item path, rest)
    | _ => none
  | '[' :: rest => do
    match ← key rest with
    | (path, ']' :: rest) => return (.table path, rest)
    | _ => none
  | cs => do
    match ← key cs with
    | (path, '=' :: rest) =>
      let rest := skipSpace rest
      let (v, rest) ← value (rest.length + 1) maxDepth rest
      return (.pair path v, rest)
    | _ => none

/-- The statements of a text, up to its end.  The fuel is the length of the text. -/
def statements : Nat → List Char → Option (List Statement)
  | 0, _ => some []
  | fuel + 1, cs => do
    match ← skipLines cs.length cs with
    | [] => return []
    | cs =>
      let (s, rest) ← statement cs
      match ← skipTrailing rest with
      | [] => return [s]
      | '\n' :: rest => return s :: (← statements fuel rest)
      | '\r' :: '\n' :: rest => return s :: (← statements fuel rest)
      | _ => none

/-- A document under construction: its members, and the path of the table that is open. -/
structure Draft where
  members : Members
  path : List String

/-- Changes the table in which the last name of a path stands. -/
def Draft.openLast (d : Draft) (path : List String) (f : String → Members → Option Members) :
    Option Draft := do
  let last ← path.getLast?
  return ⟨← d.members.within (f last) path.dropLast, path⟩

/-- Takes in a statement. -/
def Draft.add (d : Draft) : Statement → Option Draft
  | .table path => d.openLast path Members.openTable
  | .item path => d.openLast path Members.openItem
  | .pair path v => do
    return { d with members := ← d.members.within (Members.insertKey v path) d.path }

/-- The members of the root table of a text. -/
def read (s : String) : Option (List (String × Data)) := do
  let cs := s.toList
  let all ← statements (cs.length + 1) cs
  let d ← all.foldlM Draft.add ⟨[], []⟩
  return membersData d.members

end AlarmMonitor.Settings.Toml
