import AlarmMonitor.Install.Status
import AlarmMonitor.Json.Lexer

/-!
# Reports of the installation status

A report has the optional texts `state` and `status`.  It is an object with these members, or an
array that lists them in this order.  Other members of the object are skipped: their value must be
well formed, but it may be nested to any depth and denote nothing.  The reader is a machine over
tokens; `Skip` is its part that passes over one value.
-/

set_option autoImplicit false

namespace AlarmMonitor.Install

open AlarmMonitor.Json (Token)

/-- What a backend reports about the installation. -/
structure Report where
  state : Option String
  status : Option String
  deriving DecidableEq, Repr, Inhabited

namespace Report

/-- The signal of a report: its state if that is not empty, or else its status if that is not
empty. -/
def signal (r : Report) : Option String :=
  (r.state.filter (· ≠ "")).or (r.status.filter (· ≠ ""))

/-- The status that a report names. -/
def installStatus (r : Report) : Option Status := r.signal.bind Status.ofSignal

end Report

/-! ## Passing over a value -/

/-- What is open around a place that is passed over. -/
inductive Bracket where
  | array
  | object
  deriving DecidableEq, Repr

/-- Where the machine stands inside a value that is passed over. -/
inductive Skip where
  /-- A value must follow, or, right behind an opening bracket, the end of the array. -/
  | value (canClose : Bool) (outer : List Bracket)
  /-- A name must follow, or, right behind an opening brace, the end of the object. -/
  | name (canClose : Bool) (outer : List Bracket)
  | colon (outer : List Bracket)
  /-- Behind a value inside this bracket. -/
  | behind (inner : Bracket) (outer : List Bracket)
  /-- The value is complete. -/
  | done
  deriving DecidableEq, Repr

namespace Skip

/-- Behind a complete value. -/
def leave : List Bracket → Skip
  | [] => .done
  | b :: outer => .behind b outer

/-- A token where a value is expected. -/
def readValue (outer : List Bracket) : Token → Option Skip
  | .null | .bool _ | .number _ | .string _ => some (leave outer)
  | .openArray => some (.value true (.array :: outer))
  | .openObject => some (.name true outer)
  | _ => none

/-- Passes over one token. -/
def step : Skip → Token → Option Skip
  | .value true (.array :: outer), .closeArray => some (leave outer)
  | .value _ outer, t => readValue outer t
  | .name true outer, .closeObject => some (leave outer)
  | .name _ outer, .string _ => some (.colon outer)
  | .colon outer, .colon => some (.value false (.object :: outer))
  | .behind .array outer, .comma => some (.value false (.array :: outer))
  | .behind .array outer, .closeArray => some (leave outer)
  | .behind .object outer, .comma => some (.name false outer)
  | .behind .object outer, .closeObject => some (leave outer)
  | _, _ => none

end Skip

/-! ## Reading a report -/

namespace Report

/-- The two texts of a report. -/
inductive Field where
  | state
  | status
  deriving DecidableEq, Repr

namespace Field

/-- The name of a text among the members of an object. -/
def name : Field → String
  | .state => "state"
  | .status => "status"

/-- The text with that name. -/
def ofName (s : String) : Option Field :=
  if s = "state" then some .state
  else if s = "status" then some .status
  else none

end Field

/-- The texts read so far: absent, or given as a text or as null. -/
structure Draft where
  state : Option (Option String)
  status : Option (Option String)
  deriving DecidableEq, Repr

namespace Draft

def empty : Draft := ⟨none, none⟩

/-- Has the text been given? -/
def given (d : Draft) : Field → Bool
  | .state => d.state.isSome
  | .status => d.status.isSome

def set (d : Draft) (f : Field) (s : Option String) : Draft :=
  match f with
  | .state => { d with state := some s }
  | .status => { d with status := some s }

/-- The report of the texts given; an absent one is like null. -/
def report (d : Draft) : Report := ⟨d.state.join, d.status.join⟩

end Draft

/-- Where the reader of a report stands. -/
inductive Reading where
  | start
  /-- In an array, before the text that is next; right behind the bracket or behind a comma. -/
  | place (first : Bool) (next : Field) (draft : Draft)
  /-- In an array, behind a text; the next one, if there is one, may follow. -/
  | placed (next : Option Field) (draft : Draft)
  /-- In an object, before a name; right behind the brace or behind a comma. -/
  | name (first : Bool) (draft : Draft)
  /-- In an object, behind the name of a text or of another member. -/
  | colon (field : Option Field) (draft : Draft)
  /-- In an object, before the value of a text. -/
  | text (field : Field) (draft : Draft)
  /-- In an object, inside another member. -/
  | skipping (skip : Skip) (draft : Draft)
  /-- In an object, behind a member. -/
  | member (draft : Draft)
  | done (report : Report)
  deriving DecidableEq, Repr

namespace Reading

/-- The text or null that a token gives. -/
def textOf : Token → Option (Option String)
  | .null => some none
  | .string (some s) => some (some s)
  | _ => none

/-- The text behind this one in the array form. -/
def following : Field → Option Field
  | .state => some .status
  | .status => none

/-- Goes on behind a value that may be complete by now. -/
def skipped (draft : Draft) : Skip → Reading
  | .done => .member draft
  | skip => .skipping skip draft

/-- Reads one token. -/
def step : Reading → Token → Option Reading
  | .start, .openArray => some (.place true .state .empty)
  | .start, .openObject => some (.name true .empty)
  | .place true _ draft, .closeArray => some (.done draft.report)
  | .place _ field draft, t =>
    (textOf t).map fun s => .placed (following field) (draft.set field s)
  | .placed (some next) draft, .comma => some (.place false next draft)
  | .placed _ draft, .closeArray => some (.done draft.report)
  | .name true draft, .closeObject => some (.done draft.report)
  | .name _ draft, .string (some s) =>
    match Field.ofName s with
    | some f => if draft.given f then none else some (.colon (some f) draft)
    | none => some (.colon none draft)
  | .colon (some f) draft, .colon => some (.text f draft)
  | .colon none draft, .colon => some (.skipping (.value false []) draft)
  | .text f draft, t => (textOf t).map fun s => .member (draft.set f s)
  | .skipping skip draft, t => (skip.step t).map (skipped draft)
  | .member draft, .comma => some (.name false draft)
  | .member draft, .closeObject => some (.done draft.report)
  | _, _ => none

/-- The report at the end of the tokens. -/
def finish : Reading → Option Report
  | .done r => some r
  | _ => none

end Reading

/-- The report in a body, if the body is one. -/
def read (body : String) : Option Report := do
  let tokens ← Json.Lexer.run body.toList
  (← tokens.foldlM Reading.step .start).finish

end Report

end AlarmMonitor.Install
