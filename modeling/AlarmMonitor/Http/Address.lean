import AlarmMonitor.Http.Percent
import AlarmMonitor.Text.Split

/-!
# Numeric host addresses

An IPv4 address is read from one to four numbers, decimal, octal behind `0` or hexadecimal behind
`0x`, of which the last fills all bytes that are left.  An IPv6 address is read from eight groups
of hexadecimal digits, of which `::` stands for a run of zeros and the last two may be written as
an IPv4 address.  Either has one way to be written.
-/

set_option autoImplicit false

namespace AlarmMonitor.Http.Address

/-- The value of the digits of a number, the first one the highest; none if a character is no
digit of the base. -/
def number? (base : Nat) (cs : List Char) : Option Nat :=
  cs.foldlM (fun n c => do
    let d ← Percent.digitValue c
    if d < base then some (n * base + d) else none) 0

/-! ## Four bytes -/

/-- One part of an IPv4 address. -/
def part? : List Char → Option Nat
  | [] => none
  | ['0'] => some 0
  | '0' :: 'x' :: cs => number? 16 cs
  | '0' :: 'X' :: cs => number? 16 cs
  | '0' :: cs => number? 8 cs
  | cs => number? 10 cs

/-- The parts of a dotted text; a dot at the end begins no further part. -/
def dotted (cs : List Char) : List (List Char) :=
  let parts := Text.splitBy (· == '.') cs
  if parts.getLast? = some [] then parts.dropLast else parts

/-- A text whose last part is a number can only be an IPv4 address. -/
def isNumeric (cs : List Char) : Bool :=
  match (dotted cs).getLast? with
  | none => false
  | some last => (!last.isEmpty && last.all Char.isDigit) || (part? last).isSome

/-- The address made of the numbers of its parts: all but the last one are single bytes. -/
def ofParts (front : List Nat) (last : Nat) : Option Nat :=
  if 3 < front.length ∨ Nat.pow 256 (4 - front.length) ≤ last ∨ front.any (256 ≤ ·) then none
  else some (front.foldr (fun b n => b * 16777216 + n / 256) 0 + last)

/-- Reads an IPv4 address as a number below 2³². -/
def ipv4? (cs : List Char) : Option Nat := do
  let numbers ← (dotted cs).mapM part?
  let last ← numbers.getLast?
  ofParts numbers.dropLast last

/-- An IPv4 address as four decimal numbers. -/
def ipv4Text (n : Nat) : String :=
  ".".intercalate ([3, 2, 1, 0].map fun i => toString (n / Nat.pow 256 i % 256))

/-! ## Eight groups -/

/-- A decimal number below 256 without a zero in front. -/
def octet? : List Char → Option Nat
  | [] => none
  | ['0'] => some 0
  | '0' :: _ => none
  | cs => (number? 10 cs).filter (· < 256)

/-- The two groups of an IPv4 address at the end of an IPv6 address, four numbers in full. -/
def pair? (cs : List Char) : Option (List Nat) := do
  match ← (Text.splitBy (· == '.') cs).mapM octet? with
  | [a, b, c, d] => some [a * 256 + b, c * 256 + d]
  | _ => none

/-- A group of one to four hexadecimal digits. -/
def group? (cs : List Char) : Option Nat :=
  if cs.isEmpty ∨ 4 < cs.length then none else number? 16 cs

/-- Groups between colons; where `ending` holds the last one may be an IPv4 address. -/
def groups? (ending : Bool) : List (List Char) → Option (List Nat)
  | [] => some []
  | [last] =>
    match group? last with
    | some n => some [n]
    | none => if ending then pair? last else none
  | part :: rest => do
    let n ← group? part
    let ns ← groups? ending rest
    some (n :: ns)

/-- The groups of a text without `::`; none of an empty one. -/
def run? (ending : Bool) (cs : List Char) : Option (List Nat) :=
  if cs.isEmpty then some [] else groups? ending (Text.splitBy (· == ':') cs)

/-- The texts before and behind the first `::`. -/
def atGap : List Char → Option (List Char × List Char)
  | ':' :: ':' :: cs => some ([], cs)
  | c :: cs => (atGap cs).map fun (before, behind) => (c :: before, behind)
  | [] => none

/-- Reads an IPv6 address as its eight groups.  A gap stands for at least one of them. -/
def ipv6? (cs : List Char) : Option (List Nat) :=
  match atGap cs with
  | none => (run? true cs).filter (·.length == 8)
  | some (before, behind) => do
    let front ← run? false before
    let back ← run? true behind
    if 7 < front.length + back.length then none
    else some (front ++ List.replicate (8 - front.length - back.length) 0 ++ back)

/-- The lower-case hexadecimal digits of a group. -/
def groupText (n : Nat) : String := String.ofList (Nat.toDigits 16 n)

/-- The start and length of the first longest run of zeros. -/
def longestRun (groups : List Nat) : Nat × Nat :=
  let runs := (List.range groups.length).map fun i =>
    (i, ((groups.drop i).takeWhile (· == 0)).length)
  runs.foldl (fun best run => if best.2 < run.2 then run else best) (0, 0)

/-- Groups between colons. -/
def groupsText (groups : List Nat) : String := ":".intercalate (groups.map groupText)

/-- An IPv6 address with its first longest run of two or more zeros as `::`. -/
def ipv6Text (groups : List Nat) : String :=
  let (start, length) := longestRun groups
  if length < 2 then groupsText groups
  else groupsText (groups.take start) ++ "::" ++ groupsText (groups.drop (start + length))

end AlarmMonitor.Http.Address
