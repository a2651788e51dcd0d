import AlarmMonitor.Json.Value

/-!
# Tokens of JSON text

A token stands for the characters between two pieces of layout.  A string token is well formed if
its escapes are; whether it also denotes a text (no lone surrogates) is decided by its content,
and likewise a number token may denote no number, being beyond the largest double.
-/

set_option autoImplicit false

namespace AlarmMonitor.Json

inductive Token where
  | openArray
  | closeArray
  | openObject
  | closeObject
  | comma
  | colon
  | null
  | bool (b : Bool)
  /-- A number literal and the number it denotes, if any. -/
  | number (value : Option Number)
  /-- A string literal and the text it denotes, if any. -/
  | string (value : Option String)
  deriving DecidableEq, Repr, Inhabited

/-- Four lower case hexadecimal digits. -/
def hex4 (n : Nat) : List Char :=
  [Nat.digitChar (n / 4096 % 16), Nat.digitChar (n / 256 % 16), Nat.digitChar (n / 16 % 16),
    Nat.digitChar (n % 16)]

/-- The characters that stand for one character inside a string literal. -/
def escapeChar (c : Char) : List Char :=
  if c = '"' then ['\\', '"']
  else if c = '\\' then ['\\', '\\']
  else if c = '\x08' then ['\\', 'b']
  else if c = '\x0c' then ['\\', 'f']
  else if c = '\n' then ['\\', 'n']
  else if c = '\r' then ['\\', 'r']
  else if c = '\t' then ['\\', 't']
  else if c.toNat < 0x20 then '\\' :: 'u' :: hex4 c.toNat
  else [c]

/-- A string literal. -/
def stringText (s : String) : List Char := '"' :: (s.toList.flatMap escapeChar ++ ['"'])

namespace Token

/-- The characters of a token.  A token that denotes nothing has no canonical text. -/
def text : Token → List Char
  | .openArray => ['[']
  | .closeArray => [']']
  | .openObject => ['\x7b']
  | .closeObject => ['\x7d']
  | .comma => [',']
  | .colon => [':']
  | .null => ['n', 'u', 'l', 'l']
  | .bool true => ['t', 'r', 'u', 'e']
  | .bool false => ['f', 'a', 'l', 's', 'e']
  | .number n => (n.map Number.text).getD []
  | .string s => (s.map stringText).getD []

end Token

end AlarmMonitor.Json
