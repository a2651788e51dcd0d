import AlarmMonitor.Settings.Data

/-!
# Tables of TOML under construction

A table can be written in pieces: by a header, by the headers of the tables inside it, and by keys
with dots.  Each piece may be written once, so a table remembers how it came about.
-/

set_option autoImplicit false

namespace AlarmMonitor.Settings.Toml

/-- How a table came about. -/
inductive Kind where
  /-- A header inside it was written, but not its own. -/
  | implied
  | header
  /-- It was made by a key with dots. -/
  | dotted
  deriving DecidableEq, Repr

inductive Entry where
  /-- A value that cannot be added to. -/
  | closed (value : Data)
  | table (kind : Kind) (members : List (String × Entry))
  /-- Tables that were written by headers of their own, the last one first. -/
  | tables (items : List (List (String × Entry)))
  deriving Inhabited

/-- The members of a table, in the order in which they were written. -/
abbrev Members := List (String × Entry)

namespace Members

/-- The member of a name. -/
def find (name : String) : Members → Option Entry
  | [] => none
  | (n, e) :: rest => if n = name then some e else find name rest

/-- Replaces the member of a name, or adds it at the end. -/
def put (name : String) (e : Entry) : Members → Members
  | [] => [(name, e)]
  | (n, old) :: rest => if n = name then (n, e) :: rest else (n, old) :: put name e rest

/-- Changes the table that a header names on the way to another one. -/
def enter (name : String) (f : Members → Option Members) (ms : Members) : Option Members :=
  match ms.find name with
  | none => (f []).map fun inner => ms.put name (.table .implied inner)
  | some (.table kind inner) => (f inner).map fun inner => ms.put name (.table kind inner)
  | some (.tables (last :: before)) =>
    (f last).map fun last => ms.put name (.tables (last :: before))
  | _ => none

/-- Changes the table at the end of a path of headers. -/
def within (f : Members → Option Members) : List String → Members → Option Members
  | [], ms => f ms
  | name :: rest, ms => ms.enter name (within f rest)

/-- Opens a table by its header. -/
def openTable (name : String) (ms : Members) : Option Members :=
  match ms.find name with
  | none => some (ms.put name (.table .header []))
  | some (.table .implied inner) => some (ms.put name (.table .header inner))
  | _ => none

/-- Opens one more table of an array by its header. -/
def openItem (name : String) (ms : Members) : Option Members :=
  match ms.find name with
  | none => some (ms.put name (.tables [[]]))
  | some (.tables items) => some (ms.put name (.tables ([] :: items)))
  | _ => none

/-- Adds a value under a key, which has dots if the path has several names.  Only tables that were
made by such keys or are implied by a header can be added to. -/
def insertKey (value : Data) : List String → Members → Option Members
  | [], _ => none
  | [name], ms =>
    match ms.find name with
    | none => some (ms.put name (.closed value))
    | some _ => none
  | name :: next :: rest, ms =>
    match ms.find name with
    | none =>
      (insertKey value (next :: rest) []).map fun inner => ms.put name (.table .dotted inner)
    | some (.table .dotted inner) =>
      (insertKey value (next :: rest) inner).map fun inner => ms.put name (.table .dotted inner)
    | some (.table .implied inner) =>
      (insertKey value (next :: rest) inner).map fun inner => ms.put name (.table .implied inner)
    | _ => none

end Members

mutual

/-- The data of an entry. -/
def Entry.data : Entry → Data
  | .closed value => value
  | .table _ ms => .table (membersData ms)
  | .tables items => .array (itemsData items).reverse

def membersData : List (String × Entry) → List (String × Data)
  | [] => []
  | (name, e) :: rest => (name, e.data) :: membersData rest

def itemsData : List (List (String × Entry)) → List Data
  | [] => []
  | ms :: rest => .table (membersData ms) :: itemsData rest

end

end AlarmMonitor.Settings.Toml
