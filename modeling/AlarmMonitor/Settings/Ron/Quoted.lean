import AlarmMonitor.Json.Lexer
import AlarmMonitor.Settings.Ron.Name
import AlarmMonitor.Text.Utf8

/-!
# Quoted texts of RON

Texts between double quotes, with escapes or raw, characters and bytes between single quotes, and
texts of bytes.  In a text a byte beyond ASCII begins an encoded character, whose other bytes must
be written right behind it.
-/

set_option autoImplicit false

namespace AlarmMonitor.Settings.Ron

/-! ## Escapes -/

/-- The natural of hexadecimal digits. -/
def hexadecimal (digits : List Char) : Option Nat := do
  return (← digits.mapM Json.Lexer.hexValue).foldl (fun n d => n * 16 + d) 0

/-- The character meant by a letter behind a backslash. -/
def letterEscape (c : Char) : Option Char :=
  if c = 'n' then some '\n'
  else if c = 't' then some '\t'
  else if c = 'r' then some '\r'
  else if c = '0' then some '\x00'
  else if c = '"' ∨ c = '\'' ∨ c = '\\' then some c
  else none

/-- The character of a code point between braces, and what follows it.  One to six digits stand
between the braces. -/
def point (cs : List Char) : Option (Char × List Char) :=
  let digits := cs.takeWhile (· != '\x7d')
  match cs.dropWhile (· != '\x7d') with
  | _ :: rest => do
    let n ← hexadecimal digits
    if digits.isEmpty || 6 < digits.length || (0xD800 ≤ n ∧ n ≤ 0xDFFF) || 0x110000 ≤ n then none
    else return (Char.ofNat n, rest)
  | [] => none

/-- The rest of an encoded character of which some bytes are missing; the next one lies in a range.
Space may stand between the parts of an escape. -/
def encoded : Nat → Nat → Nat → Nat → List Char → Option (Char × List Char)
  | 0, _, _, n, cs => some (Char.ofNat n, cs)
  | missing + 1, low, high, n, '\\' :: cs => do
    match ← skipAll cs with
    | 'x' :: cs =>
      match ← skipAll cs with
      | a :: b :: rest =>
        let byte ← hexadecimal [a, b]
        if low ≤ byte ∧ byte ≤ high then encoded missing 0x80 0xBF (n * 64 + (byte - 0x80)) rest
        else none
      | _ => none
    | _ => none
  | _ + 1, _, _, _, _ => none

/-- The escape of a text behind its backslash, and what follows it. -/
def textEscape : List Char → Option (Char × List Char)
  | 'x' :: a :: b :: rest => do
    let (missing, low, high, n) ← Text.lead (← hexadecimal [a, b])
    encoded missing low high n rest
  | 'u' :: '\x7b' :: rest => point rest
  | c :: rest => (letterEscape c).map (·, rest)
  | [] => none

/-- The escape of a character behind its backslash: a byte must be ASCII. -/
def characterEscape : List Char → Option (Char × List Char)
  | 'x' :: a :: b :: rest => do
    let n ← hexadecimal [a, b]
    if n < 0x80 then some (Char.ofNat n, rest) else none
  | 'u' :: '\x7b' :: rest => point rest
  | c :: rest => (letterEscape c).map (·, rest)
  | [] => none

/-- The escape of a byte behind its backslash. -/
def byteEscape : List Char → Option (UInt8 × List Char)
  | 'x' :: a :: b :: rest => (hexadecimal [a, b]).map fun n => (n.toUInt8, rest)
  | c :: rest => (letterEscape c).map fun d => (d.toNat.toUInt8, rest)
  | [] => none

/-! ## Texts -/

/-- What follows a backslash at the end of a line, up to the next character that is no space. -/
def continuation : List Char → Option (List Char)
  | '\n' :: rest => some (rest.dropWhile isSpace)
  | '\r' :: '\n' :: rest => some (rest.dropWhile isSpace)
  | _ => none

/-- The text up to the closing quote, and what follows it.  The fuel is more than the length of
the input. -/
def string : Nat → List Char → List Char → Option (String × List Char)
  | 0, _, _ => none
  | fuel + 1, acc, cs =>
    match cs with
    | '"' :: rest => some (String.ofList acc.reverse, rest)
    | '\\' :: rest =>
      match continuation rest with
      | some rest => string fuel acc rest
      | none => do
        let (c, rest) ← textEscape rest
        string fuel (c :: acc) rest
    | c :: rest => string fuel (c :: acc) rest
    | [] => none

/-- The bytes up to the closing quote, and what follows it. -/
def byteString : Nat → List UInt8 → List Char → Option (List UInt8 × List Char)
  | 0, _, _ => none
  | fuel + 1, acc, cs =>
    match cs with
    | '"' :: rest => some (acc.reverse, rest)
    | '\\' :: rest =>
      match continuation rest with
      | some rest => byteString fuel acc rest
      | none => do
        let (b, rest) ← byteEscape rest
        byteString fuel (b :: acc) rest
    | c :: rest => byteString fuel ((String.utf8EncodeChar c).reverse ++ acc) rest
    | [] => none

/-- The text up to a quote with this many number signs behind it. -/
def rawString (signs : Nat) (acc : List Char) : List Char → Option (String × List Char)
  | [] => none
  | c :: rest =>
    if c = '"' && rest.take signs == List.replicate signs '#' then
      some (String.ofList acc.reverse, rest.drop signs)
    else rawString signs (c :: acc) rest

/-- A text without escapes, behind its `r`. -/
def rawText (cs : List Char) : Option (String × List Char) :=
  match cs.dropWhile (· == '#') with
  | '"' :: rest => rawString (cs.takeWhile (· == '#')).length [] rest
  | _ => none

/-- A text between double quotes, and what follows it. -/
def text : List Char → Option (String × List Char)
  | '"' :: rest => string (rest.length + 1) [] rest
  | 'r' :: rest => rawText rest
  | _ => none

/-- A text of bytes, and what follows it. -/
def bytes : List Char → Option (List UInt8 × List Char)
  | 'b' :: '"' :: rest => byteString (rest.length + 1) [] rest
  | 'b' :: 'r' :: rest => (rawText rest).map fun (s, rest) => (Text.encode s, rest)
  | _ => none

/-! ## Single characters -/

/-- A character between single quotes, and what follows it. -/
def character : List Char → Option (Char × List Char)
  | '\'' :: '\\' :: rest => do
    match ← characterEscape rest with
    | (c, '\'' :: rest) => return (c, rest)
    | _ => none
  | '\'' :: c :: '\'' :: rest => some (c, rest)
  | _ => none

/-- A byte between single quotes, and what follows it. -/
def byte : List Char → Option (UInt8 × List Char)
  | 'b' :: '\'' :: '\\' :: rest => do
    match ← byteEscape rest with
    | (b, '\'' :: rest) => return (b, rest)
    | _ => none
  | 'b' :: '\'' :: c :: '\'' :: rest =>
    if c.toNat < 0x80 then some (c.toNat.toUInt8, rest) else none
  | _ => none

end AlarmMonitor.Settings.Ron
