import AlarmMonitor.Json.Lexer

/-!
# Quoted texts of TOML

Four forms: between double quotes with escapes, between single quotes without, and both again with
three quotes, where a text may have several lines.  Each reader begins behind the opening quotes
and returns the text and what follows the closing ones.
-/

set_option autoImplicit false

namespace AlarmMonitor.Settings.Toml

/-- May the character stand for itself inside a text of one line? -/
def isPlain (c : Char) : Bool := c == '\t' || (0x20 ≤ c.toNat && c.toNat != 0x7F)

/-- The character of a code point written in hexadecimal digits. -/
def pointOf (digits : List Char) : Option Char := do
  let values ← digits.mapM Json.Lexer.hexValue
  let n := values.foldl (fun n d => n * 16 + d) 0
  if n < 0xD800 ∨ (0xDFFF < n ∧ n < 0x110000) then some (Char.ofNat n) else none

/-- The character meant by an escape of one letter. -/
def shortEscape (c : Char) : Option Char :=
  if c = 'b' then some '\x08'
  else if c = 't' then some '\t'
  else if c = 'n' then some '\n'
  else if c = 'f' then some '\x0c'
  else if c = 'r' then some '\r'
  else if c = 'e' then some '\x1b'
  else if c = '"' then some '"'
  else if c = '\\' then some '\\'
  else none

/-- The escape behind a backslash, and what follows it. -/
def escape : List Char → Option (Char × List Char)
  | 'u' :: a :: b :: c :: d :: rest => (pointOf [a, b, c, d]).map (·, rest)
  | 'U' :: a :: b :: c :: d :: e :: f :: g :: h :: rest =>
    (pointOf [a, b, c, d, e, f, g, h]).map (·, rest)
  | 'x' :: a :: b :: rest => (pointOf [a, b]).map (·, rest)
  | c :: rest => (shortEscape c).map (·, rest)
  | [] => none

/-- The text of characters collected with the last one first. -/
def collected (acc : List Char) : String := String.ofList acc.reverse

/-- A text of one line between double quotes.  The fuel is the length of the input. -/
def basic : Nat → List Char → List Char → Option (String × List Char)
  | 0, _, _ => none
  | fuel + 1, acc, cs =>
    match cs with
    | '"' :: rest => some (collected acc, rest)
    | '\\' :: rest => do
      let (c, rest) ← escape rest
      basic fuel (c :: acc) rest
    | c :: rest => if isPlain c then basic fuel (c :: acc) rest else none
    | [] => none

/-- A text of one line between single quotes. -/
def literal (acc : List Char) : List Char → Option (String × List Char)
  | '\'' :: rest => some (collected acc, rest)
  | c :: rest => if isPlain c then literal (c :: acc) rest else none
  | [] => none

def isSpace (c : Char) : Bool := c == ' ' || c == '\t'

/-- Does the line end here, spaces aside? -/
def endsLine (cs : List Char) : Bool :=
  match cs.dropWhile isSpace with
  | '\n' :: _ => true
  | '\r' :: '\n' :: _ => true
  | _ => false

/-- What follows spaces and line ends. -/
def dropLayout : List Char → List Char
  | ' ' :: rest => dropLayout rest
  | '\t' :: rest => dropLayout rest
  | '\n' :: rest => dropLayout rest
  | '\r' :: '\n' :: rest => dropLayout rest
  | cs => cs

/-- The text without the line end at its front. -/
def dropLineEnd : List Char → List Char
  | '\n' :: rest => rest
  | '\r' :: '\n' :: rest => rest
  | cs => cs

/-- May the character stand for itself in a text of several lines, before this rest? -/
def isPlainLine (c : Char) (rest : List Char) : Bool :=
  isPlain c || c == '\n' || (c == '\r' && rest.head? == some '\n')

/-- A text of several lines between double quotes.  Up to two quotes may stand right before the
closing ones.  A backslash at the end of a line takes away all space up to the next character. -/
def basicLines : Nat → List Char → List Char → Option (String × List Char)
  | 0, _, _ => none
  | fuel + 1, acc, cs =>
    match cs with
    | '"' :: '"' :: '"' :: '"' :: '"' :: rest => some (collected ('"' :: '"' :: acc), rest)
    | '"' :: '"' :: '"' :: '"' :: rest => some (collected ('"' :: acc), rest)
    | '"' :: '"' :: '"' :: rest => some (collected acc, rest)
    | '\\' :: rest =>
      if endsLine rest then
        basicLines fuel acc (dropLayout rest)
      else do
        let (c, rest) ← escape rest
        basicLines fuel (c :: acc) rest
    | c :: rest => if isPlainLine c rest then basicLines fuel (c :: acc) rest else none
    | [] => none

/-- A text of several lines between single quotes. -/
def literalLines (acc : List Char) : List Char → Option (String × List Char)
  | '\'' :: '\'' :: '\'' :: '\'' :: '\'' :: rest => some (collected ('\'' :: '\'' :: acc), rest)
  | '\'' :: '\'' :: '\'' :: '\'' :: rest => some (collected ('\'' :: acc), rest)
  | '\'' :: '\'' :: '\'' :: rest => some (collected acc, rest)
  | c :: rest => if isPlainLine c rest then literalLines (c :: acc) rest else none
  | [] => none

/-- A quoted text of one line, with its opening quote. -/
def quotedLine : List Char → Option (String × List Char)
  | '"' :: rest => basic (rest.length + 1) [] rest
  | '\'' :: rest => literal [] rest
  | _ => none

/-- A quoted text of any form, with its opening quotes. -/
def quotedText : List Char → Option (String × List Char)
  | '"' :: '"' :: '"' :: rest => basicLines (rest.length + 1) [] (dropLineEnd rest)
  | '\'' :: '\'' :: '\'' :: rest => literalLines [] (dropLineEnd rest)
  | cs => quotedLine cs

end AlarmMonitor.Settings.Toml
