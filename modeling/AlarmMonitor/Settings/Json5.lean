import AlarmMonitor.Json.Lexer
import AlarmMonitor.Settings.Data
import AlarmMonitor.Text.Blank
import AlarmMonitor.Text.Word

/-!
# JSON5

JSON with comments, names without quotes, texts between single quotes, commas before a closing
bracket, and more ways to write a number.
-/

set_option autoImplicit false

namespace AlarmMonitor.Settings.Json5

open AlarmMonitor.Number

/-! ## Space -/

def isLineEnd (c : Char) : Bool := c == '\n' || c == '\r' || c == '\u2028' || c == '\u2029'

/-- Is the character space between two tokens? -/
def isSpace (c : Char) : Bool := (Text.isBlank c && c != '\x85') || c == '\ufeff'

/-- What follows space and comments; nothing, if a comment does not end.  The fuel is more than
the length of the text. -/
def skip : Nat → List Char → Option (List Char)
  | 0, cs => some cs
  | fuel + 1, cs =>
    match cs.dropWhile isSpace with
    | '/' :: '/' :: rest => skip fuel (rest.dropWhile fun c => !isLineEnd c)
    | '/' :: '*' :: rest => do skip fuel (← afterBlock rest)
    | rest => some rest
where
  /-- What follows the end of a block comment. -/
  afterBlock : List Char → Option (List Char)
    | '*' :: '/' :: rest => some rest
    | _ :: rest => afterBlock rest
    | [] => none

/-- What follows space and comments. -/
def skipAll (cs : List Char) : Option (List Char) := skip (cs.length + 1) cs

/-! ## Texts and names -/

/-- The character meant by a letter behind a backslash. -/
def escaped (c : Char) : Option Char :=
  if c = 'b' then some '\x08'
  else if c = 'f' then some '\x0c'
  else if c = 'n' then some '\n'
  else if c = 'r' then some '\r'
  else if c = 't' then some '\t'
  else if c = 'v' then some '\x0b'
  else if c = '0' then some '\x00'
  else if c.isDigit || c = 'x' || c = 'u' then none
  else some c

/-- The code unit of hexadecimal digits. -/
def unit (digits : List Char) : Option Nat := do
  return (← digits.mapM Json.Lexer.hexValue).foldl (fun n d => n * 16 + d) 0

/-- The text up to the closing quote, and what follows it.  `lead` is a leading surrogate whose
partner must follow. -/
def string (quote : Char) (acc : List Char) (lead : Option Nat) :
    List Char → Option (String × List Char)
  | [] => none
  | '\\' :: 'u' :: a :: b :: c :: d :: rest =>
    match unit [a, b, c, d], lead with
    | some n, some high =>
      if 0xDC00 ≤ n ∧ n ≤ 0xDFFF then
        string quote (Char.ofNat (0x10000 + (high - 0xD800) * 0x400 + (n - 0xDC00)) :: acc) none rest
      else none
    | some n, none =>
      if 0xD800 ≤ n ∧ n ≤ 0xDBFF then string quote acc (some n) rest
      else if 0xDC00 ≤ n ∧ n ≤ 0xDFFF then none
      else string quote (Char.ofNat n :: acc) none rest
    | none, _ => none
  | '\\' :: 'x' :: a :: b :: rest =>
    match unit [a, b], lead with
    | some n, none => string quote (Char.ofNat n :: acc) none rest
    | _, _ => none
  | '\\' :: '\r' :: '\n' :: rest => string quote acc lead rest
  | '\\' :: c :: rest =>
    if isLineEnd c then string quote acc lead rest
    else if lead.isSome || (c == '0' && rest.head?.any Char.isDigit) then none
    else match escaped c with
      | some e => string quote (e :: acc) none rest
      | none => none
  | c :: rest =>
    if lead.isSome then none
    else if c = quote then some (String.ofList acc.reverse, rest)
    else if c = '\\' || c = '\n' || c = '\r' then none
    else string quote (c :: acc) none rest

/-- May a name begin with the character? -/
def beginsName (c : Char) : Bool := Text.isLetter c || c == '$' || c == '_'

/-- May a name go on with the character? -/
def continuesName (c : Char) : Bool :=
  beginsName c || Text.isDecimalDigit c || Text.isConnector c || c == '\u200c' || c == '\u200d' ||
    (Text.isMark c && !Text.inRanges c.toNat Text.enclosingRanges)

/-- The name at the front of a text, and what follows it.  Behind the first character the class of
the characters is wider; a character may be written by its code unit. -/
def bareName (acc : List Char) : List Char → Option (String × List Char)
  | '\\' :: 'u' :: a :: b :: c :: d :: rest => do
    let n ← unit [a, b, c, d]
    if 0xD800 ≤ n ∧ n ≤ 0xDFFF then none else bareName (Char.ofNat n :: acc) rest
  | '\\' :: _ => none
  | c :: rest =>
    if if acc.isEmpty then beginsName c else continuesName c then bareName (c :: acc) rest
    else if acc.isEmpty then none
    else some (String.ofList acc.reverse, c :: rest)
  | [] => if acc.isEmpty then none else some (String.ofList acc.reverse, [])

/-- The name of a member, and what follows it. -/
def name : List Char → Option (String × List Char)
  | '"' :: rest => string '"' [] none rest
  | '\'' :: rest => string '\'' [] none rest
  | cs => bareName [] cs

/-! ## Numbers and words -/

/-- An integer, which is a real if it does not fit into 64 bits. -/
def integer (negative : Bool) (n : Nat) : Data :=
  if n < Number.signedBound ∨ (negative ∧ n = Number.signedBound) then
    .integer (if negative then -(n : Int) else n)
  else .real ((Double.nearest negative n 1).elim (.infinite negative) .finite)

/-- An integer in hexadecimal digits. -/
def hexadecimal (negative : Bool) (digits : List Char) : Option Data :=
  if digits.isEmpty then none else (unit digits).map (integer negative)

/-- A number in decimal digits: an integer, or a real if it has a point or an exponent. -/
def decimal (negative : Bool) (cs : List Char) : Option Data := do
  let l ← if cs.head?.any fun c => c.isDigit || c == '.' then Literal.ofLoose cs else none
  if 1 < l.whole.length && l.whole.head? == some 0 then none
  else if l.isInteger then return integer negative (ofDigits l.whole)
  else return .real (Binary.ofLiteral { l with negative })

/-- A number behind its sign. -/
def number (negative : Bool) : List Char → Option Data
  | ['I', 'n', 'f', 'i', 'n', 'i', 't', 'y'] => some (.real (.infinite negative))
  | ['N', 'a', 'N'] => some (.real .nan)
  | '0' :: 'x' :: digits => hexadecimal negative digits
  | '0' :: 'X' :: digits => hexadecimal negative digits
  | cs => decimal negative cs

/-- A word or a number. -/
def scalar : List Char → Option Data
  | ['n', 'u', 'l', 'l'] => some .nothing
  | ['t', 'r', 'u', 'e'] => some (.bool true)
  | ['f', 'a', 'l', 's', 'e'] => some (.bool false)
  | '-' :: rest => number true rest
  | '+' :: rest => number false rest
  | cs => number false cs

/-- May the character stand in a word or a number? -/
def isScalarChar (c : Char) : Bool := c.isAlphanum || c == '+' || c == '-' || c == '.'

/-! ## Values -/

mutual

/-- The value at the front of a text, and what follows it.  The fuel is more than the length of
the text. -/
def value : Nat → List Char → Option (Data × List Char)
  | 0, _ => none
  | fuel + 1, cs => do
    match ← skipAll cs with
    | '[' :: rest => items fuel [] rest
    | '\x7b' :: rest => members fuel [] rest
    | '"' :: rest => (string '"' [] none rest).map fun (s, rest) => (.text s, rest)
    | '\'' :: rest => (string '\'' [] none rest).map fun (s, rest) => (.text s, rest)
    | cs => (scalar (cs.takeWhile isScalarChar)).map (·, cs.dropWhile isScalarChar)

/-- The items of an array behind its bracket or a comma. -/
def items : Nat → List Data → List Char → Option (Data × List Char)
  | 0, _, _ => none
  | fuel + 1, acc, cs => do
    match ← skipAll cs with
    | ']' :: rest => return (.array acc.reverse, rest)
    | cs =>
      let (v, rest) ← value fuel cs
      match ← skipAll rest with
      | ',' :: rest => items fuel (v :: acc) rest
      | ']' :: rest => return (.array (v :: acc).reverse, rest)
      | _ => none

/-- The members of an object behind its brace or a comma. -/
def members : Nat → List (String × Data) → List Char → Option (Data × List Char)
  | 0, _, _ => none
  | fuel + 1, acc, cs => do
    match ← skipAll cs with
    | '\x7d' :: rest => return (.table acc.reverse, rest)
    | cs =>
      let (n, rest) ← name cs
      match ← skipAll rest with
      | ':' :: rest =>
        let (v, rest) ← value fuel rest
        match ← skipAll rest with
        | ',' :: rest => members fuel ((n, v) :: acc) rest
        | '\x7d' :: rest => return (.table ((n, v) :: acc).reverse, rest)
        | _ => none
      | _ => none

end

/-- The value that a text holds. -/
def read (s : String) : Option Data := do
  let cs := s.toList
  let (v, rest) ← value (cs.length + 1) cs
  if (← skipAll rest).isEmpty then return v else none

end AlarmMonitor.Settings.Json5
