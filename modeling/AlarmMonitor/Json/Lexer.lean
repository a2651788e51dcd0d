import AlarmMonitor.Json.Token

/-!
# From characters to tokens

The lexer reads one character at a time.  `Lexer.State` says inside what it stands, and a run is a
left fold over the characters, so that the reading of a concatenation is the reading of its parts
one after the other.  Layout is space, tab, line feed and carriage return.
-/

set_option autoImplicit false

namespace AlarmMonitor.Json.Lexer

open AlarmMonitor.Number

/-- The content of a string literal so far: its characters, the last one first, whether it still
denotes a text, and a leading surrogate that waits for its partner. -/
structure Content where
  chars : List Char
  valid : Bool
  lead : Option Nat
  deriving DecidableEq, Repr, Inhabited

namespace Content

def empty : Content := ⟨[], true, none⟩

/-- Takes a character written as itself or by a short escape. -/
def push (t : Content) (c : Char) : Content :=
  ⟨c :: t.chars, t.valid && t.lead.isNone, none⟩

/-- Takes a code unit written by four hexadecimal digits. -/
def pushUnit (t : Content) (n : Nat) : Content :=
  match t.lead with
  | some high =>
    if 0xDC00 ≤ n ∧ n ≤ 0xDFFF then
      ⟨Char.ofNat (0x10000 + (high - 0xD800) * 0x400 + (n - 0xDC00)) :: t.chars, t.valid, none⟩
    else ⟨t.chars, false, none⟩
  | none =>
    if 0xD800 ≤ n ∧ n ≤ 0xDBFF then { t with lead := some n }
    else if 0xDC00 ≤ n ∧ n ≤ 0xDFFF then ⟨t.chars, false, none⟩
    else ⟨Char.ofNat n :: t.chars, t.valid, none⟩

/-- The token of a finished literal. -/
def token (t : Content) : Token :=
  .string (if t.valid && t.lead.isNone then some (String.ofList t.chars.reverse) else none)

end Content

/-- Where the lexer stands. -/
inductive State where
  /-- Between two tokens. -/
  | between
  /-- Inside a keyword of which these characters are missing. -/
  | word (rest : List Char) (token : Token)
  /-- Inside a number, with its characters so far, the last one first. -/
  | number (chars : List Char)
  /-- Inside a string literal. -/
  | string (content : Content)
  /-- After a backslash. -/
  | escape (content : Content)
  /-- After `\u` and some of its four digits. -/
  | hex (content : Content) (count : Nat) (value : Nat)
  deriving DecidableEq, Repr, Inhabited

/-- The state and the tokens so far, the last one first. -/
structure Scan where
  state : State
  tokens : List Token
  deriving DecidableEq, Repr, Inhabited

def isLayout (c : Char) : Bool := c = ' ' || c = '\t' || c = '\n' || c = '\r'

/-- May the character stand inside a number? -/
def isNumberChar (c : Char) : Bool :=
  c.isDigit || c = '-' || c = '+' || c = '.' || c = 'e' || c = 'E'

/-- The value of a hexadecimal digit of either case. -/
def hexValue (c : Char) : Option Nat :=
  if c.isDigit then some (c.toNat - '0'.toNat)
  else if 'a' ≤ c ∧ c ≤ 'f' then some (c.toNat - 'a'.toNat + 10)
  else if 'A' ≤ c ∧ c ≤ 'F' then some (c.toNat - 'A'.toNat + 10)
  else none

/-- The character meant by a short escape. -/
def shortEscape (c : Char) : Option Char :=
  if c = '"' then some '"'
  else if c = '\\' then some '\\'
  else if c = '/' then some '/'
  else if c = 'b' then some '\x08'
  else if c = 'f' then some '\x0c'
  else if c = 'n' then some '\n'
  else if c = 'r' then some '\r'
  else if c = 't' then some '\t'
  else none

/-- The token of the characters of a number, the last one first. -/
def numberToken (chars : List Char) : Option Token :=
  (Literal.ofStrict chars.reverse).map fun l => .number (Number.ofLiteral l)

/-- A character between two tokens. -/
def begin (tokens : List Token) (c : Char) : Option Scan :=
  if isLayout c then some ⟨.between, tokens⟩
  else if c = '[' then some ⟨.between, .openArray :: tokens⟩
  else if c = ']' then some ⟨.between, .closeArray :: tokens⟩
  else if c = '\x7b' then some ⟨.between, .openObject :: tokens⟩
  else if c = '\x7d' then some ⟨.between, .closeObject :: tokens⟩
  else if c = ',' then some ⟨.between, .comma :: tokens⟩
  else if c = ':' then some ⟨.between, .colon :: tokens⟩
  else if c = '"' then some ⟨.string .empty, tokens⟩
  else if c = 'n' then some ⟨.word ['u', 'l', 'l'] .null, tokens⟩
  else if c = 't' then some ⟨.word ['r', 'u', 'e'] (.bool true), tokens⟩
  else if c = 'f' then some ⟨.word ['a', 'l', 's', 'e'] (.bool false), tokens⟩
  else if c.isDigit || c = '-' then some ⟨.number [c], tokens⟩
  else none

/-- Reads one character. -/
def step (s : Scan) (c : Char) : Option Scan :=
  match s.state with
  | .between => begin s.tokens c
  | .word [] _ => none
  | .word [d] t => if c = d then some ⟨.between, t :: s.tokens⟩ else none
  | .word (d :: rest) t => if c = d then some ⟨.word rest t, s.tokens⟩ else none
  | .number chars =>
    if isNumberChar c then some ⟨.number (c :: chars), s.tokens⟩
    else (numberToken chars).bind fun t => begin (t :: s.tokens) c
  | .string content =>
    if c = '"' then some ⟨.between, content.token :: s.tokens⟩
    else if c = '\\' then some ⟨.escape content, s.tokens⟩
    else if c.toNat < 0x20 then none
    else some ⟨.string (content.push c), s.tokens⟩
  | .escape content =>
    if c = 'u' then some ⟨.hex content 0 0, s.tokens⟩
    else (shortEscape c).map fun d => ⟨.string (content.push d), s.tokens⟩
  | .hex content count value =>
    (hexValue c).map fun d =>
      let value := value * 16 + d
      if count = 3 then ⟨.string (content.pushUnit value), s.tokens⟩
      else ⟨.hex content (count + 1) value, s.tokens⟩

/-- The tokens at the end of the text, in order; a text must not end inside a token other than a
number. -/
def finish (s : Scan) : Option (List Token) :=
  match s.state with
  | .between => some s.tokens.reverse
  | .number chars => (numberToken chars).map fun t => (t :: s.tokens).reverse
  | _ => none

/-- The tokens of a text. -/
def run (cs : List Char) : Option (List Token) :=
  (cs.foldlM step ⟨.between, []⟩).bind finish

end AlarmMonitor.Json.Lexer
