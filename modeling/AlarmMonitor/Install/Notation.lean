import AlarmMonitor.Install.Status
import AlarmMonitor.Json.Lexer

/-!
# The status as a JSON value

A status is written as the string of its name, or as an object whose only member has this name and
the value null.  A text that is neither is faulty in one of three ways, and the first fault from
the left decides.
-/

set_option autoImplicit false

namespace AlarmMonitor.Install.Notation

open AlarmMonitor.Number
open AlarmMonitor.Json

/-- Why a text denotes no status. -/
inductive Fault where
  /-- The text breaks the rules of JSON, or is no string or object where one must stand. -/
  | syntaxError
  /-- The text is well formed so far but does not say a status. -/
  | wrongData
  /-- The text ends too early. -/
  | endOfText
  deriving DecidableEq, Repr

namespace Fault

/-- The name of a kind of fault. -/
def name : Fault → String
  | .syntaxError => "syntax"
  | .wrongData => "data"
  | .endOfText => "eof"

end Fault

/-- A step of the reader: a result and the rest of the text. -/
abbrev Step (α : Type) : Type := List Char → Except Fault (α × List Char)

/-- The text without layout at its front. -/
def skipLayout (cs : List Char) : List Char := cs.dropWhile Lexer.isLayout

/-- The fault of a place where something else was needed. -/
def faultAt (rest : List Char) : Fault := if rest.isEmpty then .endOfText else .syntaxError

/-- The code unit of four hexadecimal digits. -/
def unit4 (a b c d : Char) : Option Nat := do
  return (← Lexer.hexValue a) * 4096 + (← Lexer.hexValue b) * 256 + (← Lexer.hexValue c) * 16
    + (← Lexer.hexValue d)

/-- The number of bytes of a text in UTF-8. -/
def byteSize (cs : List Char) : Nat := cs.foldl (fun n c => n + c.utf8Size) 0

/-- The rest of a string literal up to its closing quote.  `acc` holds the characters so far, the
last one first, and `lead` a leading surrogate whose partner must follow at once. -/
def stringBody (acc : List Char) (lead : Option Nat) : Step String
  | [] => .error .endOfText
  | '"' :: rest =>
    if lead.isSome then .error .syntaxError else .ok (String.ofList acc.reverse, rest)
  | '\\' :: 'u' :: a :: b :: c :: d :: rest =>
    match unit4 a b c d with
    | none => .error .syntaxError
    | some n =>
      match lead with
      | some high =>
        if 0xDC00 ≤ n ∧ n ≤ 0xDFFF then
          stringBody (Char.ofNat (0x10000 + (high - 0xD800) * 0x400 + (n - 0xDC00)) :: acc) none rest
        else .error .syntaxError
      | none =>
        if 0xD800 ≤ n ∧ n ≤ 0xDBFF then stringBody acc (some n) rest
        else if 0xDC00 ≤ n ∧ n ≤ 0xDFFF then .error .syntaxError
        else stringBody (Char.ofNat n :: acc) none rest
  | '\\' :: 'u' :: rest =>
    .error (if byteSize rest < 4 then .endOfText else .syntaxError)
  | '\\' :: e :: rest =>
    if lead.isSome then .error .syntaxError
    else match Lexer.shortEscape e with
      | some c => stringBody (c :: acc) none rest
      | none => .error .syntaxError
  | ['\\'] => .error .endOfText
  | c :: rest =>
    if lead.isSome || c.toNat < 0x20 then .error .syntaxError
    else stringBody (c :: acc) none rest

/-- The rest of a keyword. -/
def keyword : List Char → Step Unit
  | [], cs => .ok ((), cs)
  | _ :: _, [] => .error .endOfText
  | k :: ks, c :: cs => if k = c then keyword ks cs else .error .syntaxError

/-- The fraction of a number, if there is one. -/
def fraction : Step (Option (List Nat))
  | '.' :: cs =>
    let (ds, rest) := spanDigits cs
    if ds.isEmpty then .error (faultAt rest) else .ok (some ds, rest)
  | cs => .ok (none, cs)

/-- The exponent of a number, if there is one. -/
def exponent : Step (Option (Bool × List Nat))
  | [] => .ok (none, [])
  | c :: cs =>
    if c = 'e' ∨ c = 'E' then
      let (negative, cs) := Literal.exponentSign cs
      let (ds, rest) := spanDigits cs
      if ds.isEmpty then .error (faultAt rest) else .ok (some (negative, ds), rest)
    else .ok (none, c :: cs)

/-- The literal at the front of a text, behind its sign. -/
def magnitude (negative : Bool) (cs : List Char) : Except Fault Literal := do
  let (whole, rest) := spanDigits cs
  match whole with
  | [] => .error (faultAt rest)
  | 0 :: _ :: _ => .error .syntaxError
  | _ =>
    let (f, rest) ← fraction rest
    let (e, _) ← exponent rest
    return ⟨negative, whole, f, e⟩

/-- The fault of a number where a name or null was needed. -/
def numberFault (negative : Bool) (cs : List Char) : Fault :=
  match magnitude negative cs with
  | .error f => f
  | .ok l => if (Number.ofLiteral l).isSome then .wrongData else .syntaxError

/-- The fault of a result that is well formed but of the wrong kind. -/
def wrongKind {α : Type} : Except Fault α → Fault
  | .error f => f
  | .ok _ => .wrongData

/-- The fault of a value of the wrong kind at the front of a text. -/
def misplaced : List Char → Fault
  | [] => .endOfText
  | 'n' :: cs => wrongKind (keyword ['u', 'l', 'l'] cs)
  | 't' :: cs => wrongKind (keyword ['r', 'u', 'e'] cs)
  | 'f' :: cs => wrongKind (keyword ['a', 'l', 's', 'e'] cs)
  | '-' :: cs => numberFault true cs
  | '"' :: cs => wrongKind (stringBody [] none cs)
  | c :: cs =>
    if c.isDigit then numberFault false (c :: cs)
    else if c = '[' || c = '\x7b' then .wrongData
    else .syntaxError

/-- The status named by a string behind its opening quote. -/
def statusName (cs : List Char) : Except Fault (Status × List Char) := do
  let (s, rest) ← stringBody [] none cs
  match Status.ofSignal s with
  | some status => return (status, rest)
  | none => .error .wrongData

/-- One character that must come next, layout before it aside. -/
def mark (c : Char) (cs : List Char) : Except Fault (List Char) :=
  match skipLayout cs with
  | [] => .error .endOfText
  | d :: rest => if c = d then .ok rest else .error .syntaxError

/-- The status in an object, behind its opening brace. -/
def statusObject (cs : List Char) : Except Fault (Status × List Char) := do
  match skipLayout cs with
  | '"' :: rest =>
    let (status, rest) ← statusName rest
    let rest ← mark ':' rest
    match skipLayout rest with
    | 'n' :: rest =>
      let (_, rest) ← keyword ['u', 'l', 'l'] rest
      return (status, ← mark '\x7d' rest)
    | other => .error (misplaced other)
  | other => .error (misplaced other)

/-- The status that a text denotes. -/
def read (text : String) : Except Fault Status := do
  let (status, rest) ← match skipLayout text.toList with
    | [] => .error .endOfText
    | c :: rest =>
      if c = '"' then statusName rest
      else if c = '\x7b' then statusObject rest
      else .error .syntaxError
  if (skipLayout rest).isEmpty then return status else .error .syntaxError

end AlarmMonitor.Install.Notation
