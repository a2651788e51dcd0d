import AlarmMonitor.Settings.Data

/-!
# The merged configuration

All layers are merged into one tree.  A value remembers the source it came from; tables belong to
no source, for several sources may have put their members there.
-/

set_option autoImplicit false

namespace AlarmMonitor.Settings

open AlarmMonitor.Number (Binary)

/-- Where a value came from, for messages about it. -/
abbrev Origin := Option String

/-- A value that is neither array nor table. -/
inductive Scalar where
  | nothing
  | bool (b : Bool)
  | integer (i : Int)
  | real (r : Binary)
  | text (s : String)
  deriving DecidableEq, Repr, Inhabited

inductive Tree where
  | scalar (origin : Origin) (value : Scalar)
  | array (origin : Origin) (items : List Tree)
  | table (members : List (String × Tree))
  deriving Inhabited

namespace Tree

/-- What stands where nothing has been set. -/
def missing : Tree := .scalar none .nothing

/-- A table without members. -/
def empty : Tree := .table []

/-- The members of a table; anything else has none. -/
def members : Tree → List (String × Tree)
  | .table ms => ms
  | _ => []

/-- The member of a name in a list of members. -/
def find (name : String) : List (String × Tree) → Option Tree
  | [] => none
  | (n, t) :: rest => if n = name then some t else find name rest

/-- Changes the member of a name; one that is not there yet is put at the end. -/
def update (f : Tree → Tree) (name : String) : List (String × Tree) → List (String × Tree)
  | [] => [(name, f missing)]
  | (n, t) :: rest => if n = name then (n, f t) :: rest else (n, t) :: update f name rest

mutual

/-- The tree of data from a source. -/
def ofData (origin : Origin) : Data → Tree
  | .nothing => .scalar origin .nothing
  | .bool b => .scalar origin (.bool b)
  | .integer i => .scalar origin (.integer i)
  | .real r => .scalar origin (.real r)
  | .text s => .scalar origin (.text s)
  | .array items => .array origin (ofItems origin items)
  | .table ms => .table (ofMembers origin ms)

def ofItems (origin : Origin) : List Data → List Tree
  | [] => []
  | d :: rest => ofData origin d :: ofItems origin rest

def ofMembers (origin : Origin) : List (String × Data) → List (String × Tree)
  | [] => []
  | (name, d) :: rest => (name, ofData origin d) :: ofMembers origin rest

end

mutual

/-- Merges a tree over another: the members of a table are merged one by one, anything else takes
the place of what was there. -/
def merge (below : Tree) : Tree → Tree
  | .table ms => .table (mergeMembers below.members ms)
  | t => t

def mergeMembers (below : List (String × Tree)) : List (String × Tree) → List (String × Tree)
  | [] => below
  | (name, t) :: rest => mergeMembers (update (fun old => merge old t) name below) rest

end

end Tree

end AlarmMonitor.Settings
