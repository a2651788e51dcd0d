import AlarmMonitor.Settings.Environment
import AlarmMonitor.Settings.Yaml.Token

/-!
# Nodes of YAML

What a document is made of: scalars, sequences and mappings.  A plain scalar without a tag means what
its text looks like; a tag of the core schema decides what a text must be, and a scalar that is not
that is bad.  Only a node that stands in the document needs to be data, and there a bad one is
nothing.
-/

set_option autoImplicit false

namespace AlarmMonitor.Settings.Yaml

open AlarmMonitor.Number

inductive Node where
  | nothing
  /-- A scalar that is not what its tag says. -/
  | bad
  | bool (b : Bool)
  | integer (i : Int)
  /-- A real, as it is written. -/
  | real (text : String)
  | text (s : String)
  | sequence (items : List Node)
  | mapping (entries : List (Node × Node))
  deriving Repr, Inhabited

namespace Node

/-! ## Scalars -/

/-- The boolean of a text. -/
def readBool (s : String) : Option Bool :=
  if ["true", "True", "TRUE"].contains s then some true
  else if ["false", "False", "FALSE"].contains s then some false
  else none

/-- The integer of 64 bits in a base, with an optional sign. -/
def readBased (base : Nat) (cs : List Char) : Option Int := do
  let (negative, digits) := Binary.splitSign cs
  let ds ← digits.mapM Json.Lexer.hexValue
  let n := ds.foldl (fun n d => n * base + d) 0
  if ds.isEmpty || ds.any (base ≤ ·) then none
  else if negative then (if Number.signedBound < n then none else some (-(n : Int)))
  else if Number.signedBound ≤ n then none
  else some n

/-- The integer of a text that begins with the mark of a base or with a plus sign.  Behind it a
sign may stand. -/
def readMarked : List Char → Option Int
  | '0' :: 'x' :: cs => readBased 16 cs
  | '0' :: 'o' :: cs => readBased 8 cs
  | '+' :: cs => Environment.readInteger cs
  | _ => none

/-- The names of reals that are not finite. -/
def realNames : List String :=
  [".inf", ".Inf", ".INF", "+.inf", "+.Inf", "+.INF", "-.inf", "-.Inf", "-.INF", ".nan", "NaN",
    ".NAN"]

/-- Is the text a real?  One that is no name has a digit. -/
def isReal (s : String) : Bool :=
  realNames.contains s || (s.toList.any Char.isDigit && (Binary.read s.toList).isSome)

/-- What a plain scalar without a tag means. -/
def ofPlain (s : String) : Node :=
  match readMarked s.toList, readBool s, Environment.readInteger s.toList with
  | some i, _, _ => .integer i
  | none, some b, _ => .bool b
  | none, none, some i => .integer i
  | none, none, none =>
    if ["", "~", "null"].contains s then .nothing
    else if isReal s then .real s
    else .text s

/-- What the handle of the core schema stands for. -/
def coreHandle : String := "tag:yaml.org,2002:"

/-- What a plain scalar with a tag means. -/
def ofTagged (tag : Tag) (s : String) : Node :=
  if tag.handle ≠ coreHandle then .text s
  else if tag.suffix = "bool" then (readBool s).elim .bad .bool
  else if tag.suffix = "int" then (Environment.readInteger s.toList).elim .bad .integer
  else if tag.suffix = "float" then (if isReal s then .real s else .bad)
  else if tag.suffix = "null" then (if ["~", "null"].contains s then .nothing else .bad)
  else .text s

/-- What a scalar means.  One that is not plain is a text whatever its tag. -/
def ofScalar (tag : Option Tag) (isPlain : Bool) (s : String) : Node :=
  if isPlain then tag.elim (ofPlain s) (ofTagged · s) else .text s

/-! ## Mappings -/

def isBad : Node → Bool
  | .bad => true
  | _ => false

/-- Are two scalars the same key?  Reals are compared as they are written.  A collection is never
the key of data, so it is not compared. -/
def isSameKey : Node → Node → Bool
  | .nothing, .nothing => true
  | .bool a, .bool b => a == b
  | .integer a, .integer b => a == b
  | .real a, .real b => a == b
  | .text a, .text b => a == b
  | _, _ => false

/-- Puts nodes together as keys and values, in turn.  A bad node is no key; the next node takes its
place.  No key may come twice. -/
def pairUp : Option Node → List (Node × Node) → List Node → Option (List (Node × Node))
  | _, acc, [] => some acc.reverse
  | none, acc, n :: rest => pairUp (if n.isBad then none else some n) acc rest
  | some k, acc, v :: rest =>
    if acc.any fun entry => isSameKey entry.1 k then none else pairUp none ((k, v) :: acc) rest

/-- The mapping of keys and values, in turn. -/
def ofEntries (nodes : List Node) : Option Node := (pairUp none [] nodes).map .mapping

/-! ## Data -/

/-- The name that a node stands for where it is a key. -/
def keyName : Node → Option String
  | .text s => some s
  | .real s => some s
  | .integer i => some (toString i)
  | .bool b => some (if b then "true" else "false")
  | _ => none

mutual

/-- The data of a node.  A name of a real that has a point is no data. -/
def toData : Node → Option Data
  | .nothing => some .nothing
  | .bad => some .nothing
  | .bool b => some (.bool b)
  | .integer i => some (.integer i)
  | .real s => (Binary.read s.toList).map .real
  | .text s => some (.text s)
  | .sequence items => (itemsToData items).map .array
  | .mapping entries => (entriesToData entries).map .table

def itemsToData : List Node → Option (List Data)
  | [] => some []
  | n :: rest => do return (← toData n) :: (← itemsToData rest)

def entriesToData : List (Node × Node) → Option (List (String × Data))
  | [] => some []
  | (k, v) :: rest => do return (← keyName k, ← toData v) :: (← entriesToData rest)

end

end Node

end AlarmMonitor.Settings.Yaml
