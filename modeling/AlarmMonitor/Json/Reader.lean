import AlarmMonitor.Json.Lexer

/-!
# From tokens to a value

The reader is a pushdown machine: `Reader.State` holds the unfinished arrays and objects around the
present place, and a run is a left fold over the tokens.  At most `maxDepth` brackets may be open
at a time.
-/

set_option autoImplicit false

namespace AlarmMonitor.Json

/-- The greatest number of arrays and objects inside each other. -/
def maxDepth : Nat := 127

namespace Reader

/-- An array or object that waits for a value. -/
inductive Frame where
  /-- The items before it, the last one first. -/
  | array (items : List Value)
  /-- The members before it and its name. -/
  | object (members : List (String × Value)) (name : String)
  deriving Inhabited

/-- Where the reader stands. -/
inductive State where
  /-- A value must follow, or, right behind an opening bracket, the end of the array. -/
  | value (canClose : Bool) (outer : List Frame)
  /-- A name must follow, or, right behind an opening brace, the end of the object. -/
  | name (canClose : Bool) (members : List (String × Value)) (outer : List Frame)
  /-- The colon behind a name must follow. -/
  | colon (members : List (String × Value)) (name : String) (outer : List Frame)
  /-- Behind an item of an array. -/
  | item (items : List Value) (outer : List Frame)
  /-- Behind a member of an object. -/
  | member (members : List (String × Value)) (outer : List Frame)
  /-- The value is complete. -/
  | done (v : Value)
  deriving Inhabited

/-- Hands a complete value to what waits for it. -/
def supply (v : Value) : List Frame → State
  | [] => .done v
  | .array items :: outer => .item (v :: items) outer
  | .object members name :: outer => .member (Value.insertMember name v members) outer

/-- A token where a value is expected. -/
def readValue (outer : List Frame) : Token → Option State
  | .null => some (supply .null outer)
  | .bool b => some (supply (.bool b) outer)
  | .number n => n.map fun n => supply (.number n) outer
  | .string s => s.map fun s => supply (.string s) outer
  | .openArray =>
    if outer.length < maxDepth then some (.value true (.array [] :: outer)) else none
  | .openObject => if outer.length < maxDepth then some (.name true [] outer) else none
  | _ => none

/-- Reads one token. -/
def step : State → Token → Option State
  | .value true (.array [] :: outer), .closeArray => some (supply (.array []) outer)
  | .value _ outer, t => readValue outer t
  | .name true members outer, .closeObject => some (supply (.object members) outer)
  | .name _ members outer, .string (some s) => some (.colon members s outer)
  | .colon members name outer, .colon => some (.value false (.object members name :: outer))
  | .item items outer, .comma => some (.value false (.array items :: outer))
  | .item items outer, .closeArray => some (supply (.array items.reverse) outer)
  | .member members outer, .comma => some (.name false members outer)
  | .member members outer, .closeObject => some (supply (.object members) outer)
  | _, _ => none

/-- The value at the end of the tokens. -/
def finish : State → Option Value
  | .done v => some v
  | _ => none

/-- The value that a row of tokens spells. -/
def run (tokens : List Token) : Option Value :=
  (tokens.foldlM step (.value false [])).bind finish

end Reader

/-- The value of a text, or nothing if the text is no JSON. -/
def parse (s : String) : Option Value := (Lexer.run s.toList).bind Reader.run

end AlarmMonitor.Json
