import AlarmMonitor.Settings.Tree
import AlarmMonitor.Text.Quoted

/-!
# Values of settings

A setting is a text or a natural of 64 bits.  Scalars of other kinds are converted where this has
a meaning, and otherwise the fault says what was found and what was expected.
-/

set_option autoImplicit false

namespace AlarmMonitor.Settings

open AlarmMonitor.Number (Binary)

/-- What was found in place of a value. -/
inductive Found where
  | nothing
  | text (s : String)
  | negative (i : Int)
  | array
  | table
  deriving DecidableEq, Repr

namespace Found

/-- What was found, in a message. -/
def describe : Found → String
  | .nothing => "unit value"
  | .text s => "string " ++ Text.quoted s
  | .negative i => "64-bit integer \x60" ++ toString i ++ "\x60"
  | .array => "sequence"
  | .table => "map"

end Found

/-- A value that is not of the kind expected. -/
structure Mismatch where
  found : Found
  expected : String
  origin : Origin
  deriving DecidableEq, Repr

namespace Mismatch

/-- The message about the value of a key. -/
def message (m : Mismatch) (key : String) : String :=
  "invalid type: " ++ m.found.describe ++ ", expected " ++ m.expected ++
    " for key \x60" ++ key ++ "\x60" ++ (match m.origin with
      | some source => " in " ++ source
      | none => "")

end Mismatch

/-- What a text is expected to be in a message. -/
def expectedText : String := "a string"

/-- What a natural is expected to be in a message. -/
def expectedInteger : String := "an integer"

/-- What a negative integer is expected to be in a message. -/
def expectedNatural : String := "an unsigned 64 bit or less integer"

/-- The decimal natural of 64 bits that a text writes, with or without a plus sign. -/
def readNatural (cs : List Char) : Option Nat :=
  let cs := match cs with
    | '+' :: rest => rest
    | _ => cs
  let (ds, rest) := Number.spanDigits cs
  let n := Number.ofDigits ds
  if ds.isEmpty || !rest.isEmpty || Number.maxWord < n then none else some n

/-- The natural that a text stands for: a decimal natural, or a word for one or zero. -/
def naturalOfText (s : String) : Option Nat :=
  let word := String.ofList (s.toList.map Char.toLower)
  if ["true", "on", "yes"].contains word then some 1
  else if ["false", "off", "no"].contains word then some 0
  else readNatural s.toList

namespace Scalar

/-- The text that a scalar stands for. -/
def toText (origin : Origin) : Scalar → Except Mismatch String
  | .nothing => .error ⟨.nothing, expectedText, origin⟩
  | .bool b => .ok (if b then "true" else "false")
  | .integer i => .ok (toString i)
  | .real r => .ok (String.ofList r.text)
  | .text s => .ok s

/-- The natural that a scalar stands for. -/
def toNatural (origin : Origin) : Scalar → Except Mismatch Nat
  | .nothing => .error ⟨.nothing, expectedInteger, origin⟩
  | .bool b => .ok (if b then 1 else 0)
  | .integer i => if i < 0 then .error ⟨.negative i, expectedNatural, origin⟩ else .ok i.toNat
  | .real r => .ok r.toWord
  | .text s =>
    match naturalOfText s with
    | some n => .ok n
    | none => .error ⟨.text s, expectedInteger, origin⟩

end Scalar

namespace Tree

/-- The text that a value stands for. -/
def toText : Tree → Except Mismatch String
  | .scalar origin s => s.toText origin
  | .array origin _ => .error ⟨.array, expectedText, origin⟩
  | .table _ => .error ⟨.table, expectedText, none⟩

/-- The natural that a value stands for. -/
def toNatural : Tree → Except Mismatch Nat
  | .scalar origin s => s.toNatural origin
  | .array origin _ => .error ⟨.array, expectedInteger, origin⟩
  | .table _ => .error ⟨.table, expectedInteger, none⟩

end Tree

end AlarmMonitor.Settings
