import AlarmMonitor.Number.Single
import AlarmMonitor.Settings.Data
import AlarmMonitor.Settings.Ron.Quoted
import AlarmMonitor.Settings.Toml.Scalar

/-!
# Numbers of RON

Integers in four bases, bytes, and reals.  A number may name its width behind its digits, and must
then fit into it; an integer beyond 64 bits is a real.  Two numbers with points between them are a
range, which is a table of its ends.
-/

set_option autoImplicit false

namespace AlarmMonitor.Settings.Ron

open AlarmMonitor.Number

/-! ## Integers -/

/-- May the character stand in the digits of an integer? -/
def isIntegerChar (c : Char) : Bool := Toml.isHexDigit c || c == '_' || c == 'x' || c == 'o'

/-- The widths of integers, with the least and the greatest integer of each. -/
def widths : List (String × Int × Int) :=
  [("i8", -128, 127), ("i16", -32768, 32767), ("i32", -2147483648, 2147483647),
   ("i64", -9223372036854775808, 9223372036854775807), ("u8", 0, 255), ("u16", 0, 65535),
   ("u32", 0, 4294967295), ("u64", 0, 18446744073709551615)]

/-- The base of an integer, and its digits. -/
def basedDigits : List Char → Nat × List Char
  | '0' :: 'x' :: ds => (16, ds)
  | '0' :: 'o' :: ds => (8, ds)
  | '0' :: 'b' :: ds => (2, ds)
  | ds => (10, ds)

/-- The natural of digits with their base; underscores may stand behind the first digit. -/
def natural (cs : List Char) : Option Nat :=
  let (base, ds) := basedDigits cs
  let plain := ds.filter (· != '_')
  if ds.isEmpty || ds.head? == some '_' then none
  else if plain.all fun d => Toml.isHexDigit d && Toml.digitOf d < base then
    some (Toml.naturalOf base plain)
  else none

/-- An integer with its sign and its width, and what follows it. -/
def integer (cs : List Char) : Option (Int × List Char) := do
  match byte cs with
  | some (b, rest) => return (b.toNat, rest)
  | none =>
    let (negative, cs) := Binary.splitSign cs
    let n ← natural (cs.takeWhile isIntegerChar)
    let i : Int := if negative then -(n : Int) else n
    let rest := cs.dropWhile isIntegerChar
    let width := widths.findSome? fun (w, low, high) => (word w rest).map (low, high, ·)
    let (low, high, rest) := width.getD (-9223372036854775808, 18446744073709551615, rest)
    if low ≤ i ∧ i ≤ high then return (i, rest) else none

/-! ## Reals -/

/-- The characters of a real at the front of a text.  Two points do not belong to it. -/
def realChars : List Char → List Char
  | '.' :: '.' :: _ => []
  | c :: rest =>
    if c.isDigit || ['e', 'E', '.', '+', '-', '_'].contains c then c :: realChars rest else []
  | [] => []

/-- The characters without underscores, none of which may stand at the front or behind a point. -/
def plainReal (allowed : Bool) : List Char → Option (List Char)
  | [] => some []
  | '_' :: rest => if allowed then plainReal allowed rest else none
  | c :: rest =>
    (plainReal (if c = '.' then false else allowed || c.isDigit || c == 'e' || c == 'E') rest).map
      (c :: ·)

/-- A real that has a name instead of digits, and what follows it. -/
def namedReal (cs : List Char) : Option (Binary × List Char) :=
  let (negative, cs) := Binary.splitSign cs
  let named (stem : String) (value : Binary) : Option (Binary × List Char) :=
    ["", "f32", "f64"].findSome? fun width => (word (stem ++ width) cs).map (value, ·)
  (named "inf" (.infinite negative)).or (named "NaN" .nan)

/-- A real with its sign and its width, and what follows it. -/
def real (cs : List Char) : Option (Binary × List Char) :=
  match namedReal cs with
  | some found => some found
  | none => do
    let chars := realChars cs
    let rest := cs.drop chars.length
    let l ← Literal.ofLoose (← plainReal false chars)
    match word "f32" rest with
    | some rest => return (Single.ofLiteral l, rest)
    | none => return (Binary.ofLiteral l, (word "f64" rest).getD rest)

/-! ## Numbers and ranges -/

/-- A number, and what follows it.  It is taken as an integer unless more characters belong to it
as a real. -/
def number (cs : List Char) : Option (Data × List Char) :=
  let (_, unsigned) := Binary.splitSign cs
  let asReal := (real cs).map fun (r, rest) => (Data.real r, rest)
  if (unsigned.takeWhile isIntegerChar).length < (realChars unsigned).length then asReal
  else ((integer cs).map fun (i, rest) => (Data.integer i, rest)).or asReal

/-- A number or a range, and what follows it. -/
def numberOrRange : List Char → Option (Data × List Char)
  | '.' :: '.' :: '=' :: rest => (number rest).map fun (e, rest) => (.table [("end", e)], rest)
  | '.' :: '.' :: rest => (number rest).map fun (e, rest) => (.table [("end", e)], rest)
  | cs => do
    let (s, rest) ← number cs
    match rest with
    | '.' :: '.' :: '=' :: rest =>
      let (e, rest) ← number rest
      return (.table [("start", s), ("end", e)], rest)
    | '.' :: '.' :: rest =>
      match number rest with
      | some (e, rest) => return (.table [("start", s), ("end", e)], rest)
      | none => return (.table [("start", s)], rest)
    | rest => return (s, rest)

end AlarmMonitor.Settings.Ron
