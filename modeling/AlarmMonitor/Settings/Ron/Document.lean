import AlarmMonitor.Settings.Ron.Scalar

/-!
# RON

Structures in parentheses with named members, tuples, lists, maps, optional values, texts and
numbers.  The name of a structure says nothing about its data.  Before the value attributes may
stand.  Values are nested only so deep.
-/

set_option autoImplicit false

namespace AlarmMonitor.Settings.Ron

/-! ## Attributes -/

/-- What follows tokens, with space behind each of them. -/
def tokens : List String → List Char → Option (List Char)
  | [], cs => some cs
  | t :: ts, cs => do tokens ts (← skipAll (← Text.behind t.toList cs))

/-- The extensions of the format that a file may ask for. -/
def extensions : List String :=
  ["unwrap_newtypes", "implicit_some", "unwrap_variant_newtypes", "explicit_struct_names"]

/-- Is the absence of `Some` allowed among these extensions? -/
def isImplicit (names : List String) : Bool := names.contains "implicit_some"

/-- The names of extensions with commas between them, and what follows them. -/
def extensionNames : Nat → List String → List Char → Option (List String × List Char)
  | 0, _, _ => none
  | fuel + 1, acc, cs => do
    let (n, rest) ← name cs
    let acc := String.ofList n :: acc
    if !extensions.contains (String.ofList n) then none
    else match ← skipAll rest with
      | ',' :: rest =>
        let rest ← skipAll rest
        if rest.head?.any Text.isNamePart then extensionNames fuel acc rest
        else return (acc, rest)
      | rest => return (acc, rest)

/-- An attribute: the extensions it asks for, and what follows it. -/
def headerLine (cs : List Char) : Option (List String × List Char) := do
  let inner ← tokens ["#", "!", "["] cs
  match tokens ["enable", "("] inner with
  | some rest =>
    let (names, rest) ← extensionNames (rest.length + 1) [] rest
    return (names, ← tokens [")", "]"] rest)
  | none =>
    let rest ← (tokens ["type", "="] inner).or (tokens ["schema", "="] inner)
    let (_, rest) ← text rest
    return ([], ← tokens ["]"] (← skipAll rest))

/-- All attributes at the front of a text: the extensions they ask for, and what follows them.  The
fuel is more than the length of the text. -/
def attributes : Nat → List String → List Char → Option (List String × List Char)
  | 0, _, _ => none
  | fuel + 1, acc, cs => do
    match ← skipAll cs with
    | '#' :: rest =>
      let (names, rest) ← headerLine ('#' :: rest)
      attributes fuel (names ++ acc) rest
    | rest => return (acc, rest)

/-! ## Values -/

/-- How many levels there may be inside the outermost value, where a structure and each of its
members count by themselves. -/
def deepest : Nat := 128

/-- The levels left inside one more. -/
def below : Nat → Option Nat
  | 0 => none
  | room + 1 => some room

/-- Does a named member stand here? -/
def beginsMember (cs : List Char) : Bool :=
  match (name cs).bind fun (_, rest) => skipAll rest with
  | some (':' :: _) => true
  | _ => false

/-- Words that are a value by themselves, and the names of reals among them. -/
def wordValue (cs : List Char) : Option (Data × List Char) :=
  let found := [("true", Data.bool true), ("false", .bool false), ("None", .nothing)].findSome?
    fun (w, d) => (word w cs).map (d, ·)
  if cs.head?.any Text.isNameStart then
    found.or ((namedReal cs).map fun (r, rest) => (.real r, rest))
  else none

/-- Bytes as a list of integers. -/
def byteList (bs : List UInt8) : Data := .array (bs.map fun b => .integer b.toNat)

/-- The key of a map, which must be a text, and what follows it. -/
def key (cs : List Char) : Option (String × List Char) :=
  match cs with
  | '\'' :: _ => (character cs).map fun (c, rest) => (String.singleton c, rest)
  | 'b' :: _ => do
    let (bs, rest) ← bytes cs
    let s := Text.decode bs
    if Text.encode s = bs then return (s, rest) else none
  | _ => if (name cs).isSome then none else text cs

/-- A value that is neither a word nor holds other values, and what follows it. -/
def atom (cs : List Char) : Option (Data × List Char) :=
  match cs with
  | '"' :: _ => (text cs).map fun (s, rest) => (.text s, rest)
  | 'r' :: _ => (text cs).map fun (s, rest) => (.text s, rest)
  | '\'' :: _ => (character cs).map fun (c, rest) => (.text (String.singleton c), rest)
  | 'b' :: '\'' :: _ => numberOrRange cs
  | 'b' :: _ => (bytes cs).map fun (bs, rest) => (byteList bs, rest)
  | c :: _ => if c.isDigit || ['+', '-', '.'].contains c then numberOrRange cs else none
  | [] => none

mutual

/-- The value at the front of a text, and what follows it.  In an implicit text `Some` needs no
parentheses.  The fuel is more than twice the length of the text. -/
def value (implicit : Bool) : Nat → Nat → List Char → Option (Data × List Char)
  | 0, _, _ => none
  | fuel + 1, room, cs =>
    match wordValue cs with
    | some found => some found
    | none =>
      match word "Some" cs, cs with
      | some rest, _ => optional implicit fuel room rest
      | none, '(' :: ')' :: rest => some (.nothing, rest)
      | none, '(' :: rest => compound implicit fuel room rest
      | none, '[' :: rest => do
        let (vs, rest) ← items implicit fuel (← below room) ']' [] rest
        return (.array vs, rest)
      | none, '\x7b' :: rest => do entries implicit fuel (← below room) [] rest
      | none, cs =>
        match name cs with
        | some (_, rest) => do
          match ← skipAll rest with
          | '(' :: inner => compound implicit fuel room inner
          | rest => return (.nothing, rest)
        | none => atom cs

/-- An optional value behind its `Some`. -/
def optional (implicit : Bool) : Nat → Nat → List Char → Option (Data × List Char)
  | 0, _, _ => none
  | fuel + 1, room, cs => do
    match ← skipAll cs with
    | '(' :: rest =>
      let (v, rest) ← value implicit fuel (← below room) (← skipAll rest)
      match ← skipAll rest with
      | ')' :: rest => return (v, rest)
      | ',' :: rest =>
        match ← skipAll rest with
        | ')' :: rest => return (v, rest)
        | _ => none
      | _ => none
    | rest => if implicit then value implicit fuel (← below room) rest else none

/-- A structure or a tuple behind its parenthesis. -/
def compound (implicit : Bool) : Nat → Nat → List Char → Option (Data × List Char)
  | 0, _, _ => none
  | fuel + 1, room, cs => do
    let room ← below room
    let cs ← skipAll cs
    if beginsMember cs then fields implicit fuel room [] cs
    else
      let (vs, rest) ← items implicit fuel room ')' [] cs
      return (.array vs, rest)

/-- The named members of a structure. -/
def fields (implicit : Bool) :
    Nat → Nat → List (String × Data) → List Char → Option (Data × List Char)
  | 0, _, _, _ => none
  | fuel + 1, room, acc, cs => do
    match ← skipAll cs with
    | ')' :: rest => return (.table acc.reverse, rest)
    | cs =>
      let (n, rest) ← name cs
      match ← skipAll rest with
      | ':' :: rest =>
        let (v, rest) ← value implicit fuel (← below room) (← skipAll rest)
        let acc := (String.ofList n, v) :: acc
        match ← skipAll rest with
        | ',' :: rest => fields implicit fuel room acc rest
        | ')' :: rest => return (.table acc.reverse, rest)
        | _ => none
      | _ => none

/-- The entries of a map behind its brace or a comma. -/
def entries (implicit : Bool) :
    Nat → Nat → List (String × Data) → List Char → Option (Data × List Char)
  | 0, _, _, _ => none
  | fuel + 1, room, acc, cs => do
    match ← skipAll cs with
    | '\x7d' :: rest => return (.table acc.reverse, rest)
    | cs =>
      let (k, rest) ← key cs
      match ← skipAll rest with
      | ':' :: rest =>
        let (v, rest) ← value implicit fuel (← below room) (← skipAll rest)
        let acc := (k, v) :: acc
        match ← skipAll rest with
        | ',' :: rest => entries implicit fuel room acc rest
        | '\x7d' :: rest => return (.table acc.reverse, rest)
        | _ => none
      | _ => none

/-- Values with commas between them up to the closing bracket. -/
def items (implicit : Bool) :
    Nat → Nat → Char → List Data → List Char → Option (List Data × List Char)
  | 0, _, _, _, _ => none
  | fuel + 1, room, close, acc, cs => do
    let cs ← skipAll cs
    if cs.head? = some close then return (acc.reverse, cs.drop 1)
    else
      let (v, rest) ← value implicit fuel (← below room) cs
      let rest ← skipAll rest
      if rest.head? = some ',' then items implicit fuel room close (v :: acc) (rest.drop 1)
      else if rest.head? = some close then return ((v :: acc).reverse, rest.drop 1)
      else none

end

/-- The value that a text holds. -/
def read (s : String) : Option Data := do
  let (names, cs) ← attributes (s.length + 1) [] s.toList
  let (v, rest) ← value (isImplicit names) (2 * s.length + 2) deepest cs
  if (← skipAll rest).isEmpty then return v else none

end AlarmMonitor.Settings.Ron
