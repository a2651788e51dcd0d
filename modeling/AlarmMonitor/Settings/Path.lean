import AlarmMonitor.Settings.Tree

/-!
# Paths into the configuration

A key names a place in the tree: a name, and behind it further names after a dot and places in an
array between brackets.  A negative place counts from the end of the array.
-/

set_option autoImplicit false

namespace AlarmMonitor.Settings

/-- One step below a place. -/
inductive Step where
  | member (name : String)
  | item (place : Int)
  deriving DecidableEq, Repr

/-- A place in the tree. -/
structure Path where
  root : String
  steps : List Step
  deriving DecidableEq, Repr

namespace Path

/-- May the character stand in a name? -/
def isNameChar (c : Char) : Bool := c.isAlphanum || c == '_' || c == '-'

/-- The name at the front of a text, and what follows it. -/
def takeName (cs : List Char) : Option (String × List Char) :=
  let name := cs.takeWhile isNameChar
  if name.isEmpty then none else some (String.ofList name, cs.dropWhile isNameChar)

/-- May the character stand beside an integer? -/
def isSpace (c : Char) : Bool := c == ' ' || c == '\t'

/-- The integer at the front of a text, and what follows it. -/
def takeInteger (cs : List Char) : Option (Int × List Char) :=
  let (negative, cs) := match cs with
    | '-' :: rest => (true, rest)
    | _ => (false, cs)
  let (ds, rest) := Number.spanDigits cs
  let n := Number.ofDigits ds
  if ds.isEmpty || (if negative then Number.signedBound < n else Number.signedBound ≤ n) then none
  else some (if negative then -(n : Int) else n, rest)

/-- The step at the front of a text, and what follows it. -/
def takeStep : List Char → Option (Step × List Char)
  | '.' :: cs => (takeName cs).map fun (name, rest) => (.member name, rest)
  | '[' :: cs => do
    let (i, rest) ← takeInteger (cs.dropWhile isSpace)
    match rest.dropWhile isSpace with
    | ']' :: rest => some (.item i, rest)
    | _ => none
  | _ => none

/-- The steps of a text, up to its end.  The fuel is the length of the text, and every step takes
a character. -/
def readSteps : Nat → List Char → Option (List Step)
  | _, [] => some []
  | 0, _ :: _ => none
  | fuel + 1, cs => do
    let (step, rest) ← takeStep cs
    return step :: (← readSteps fuel rest)

/-- The place that a key names, if it names one. -/
def read (key : String) : Option Path := do
  let (root, rest) ← takeName key.toList
  return ⟨root, ← readSteps rest.length rest⟩

end Path

namespace Tree

/-- Changes the item at a place; items that are missing before it are filled in. -/
def updateItem (f : Tree → Tree) (place : Int) (items : List Tree) : List Tree :=
  if 0 ≤ place then
    let i := place.toNat
    let items := items ++ List.replicate (i + 1 - items.length) missing
    items.modify i f
  else if place.natAbs ≤ items.length then items.modify (items.length - place.natAbs) f
  else
    let items := List.replicate (place.natAbs - items.length) missing ++ items
    items.modify 0 f

/-- Changes what is at the end of some steps.  What stands in the way is replaced by a table or an
array of no source. -/
def updateAt (f : Tree → Tree) : List Step → Tree → Tree
  | [], t => f t
  | .member name :: rest, t => .table (update (updateAt f rest) name t.members)
  | .item place :: rest, t =>
    match t with
    | .array origin items => .array origin (updateItem (updateAt f rest) place items)
    | _ => .array none (updateItem (updateAt f rest) place [])

/-- Merges a value into the tree at the place that a key names; a key that names no place is
passed over. -/
def set (t : Tree) (key : String) (value : Tree) : Tree :=
  match Path.read key with
  | some p => updateAt (fun below => merge below value) (.member p.root :: p.steps) t
  | none => t

/-- Merges the members of a source into the tree, each at the place that its name names. -/
def setAll (t : Tree) : List (String × Tree) → Tree
  | [] => t
  | (key, value) :: rest => (t.set key value).setAll rest

end Tree

end AlarmMonitor.Settings
