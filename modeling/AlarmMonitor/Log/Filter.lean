import AlarmMonitor.Log
import AlarmMonitor.Log.Pattern
import AlarmMonitor.Number.Binary
import AlarmMonitor.Text.Blank
import AlarmMonitor.Text.Split
import AlarmMonitor.Text.Word

/-!
# Choosing log lines

A filter is a list of directives `target[{field}]=level`.  A directive without target is about all
lines, one with a field about lines that have such a field, and one without level admits every
level.  Of the directives about a line the one with the longest target decides, of those the one
with more fields, and of two alike the later one.  Directives about spans and about the values of
fields are read, but no line of this program is inside a span.
-/

set_option autoImplicit false

namespace AlarmMonitor.Log

/-- What is admitted of the lines of a target. -/
structure Directive where
  /-- How the target of the lines begins; none for all lines. -/
  target : Option String
  /-- The fields that the lines must have. -/
  fields : List String
  /-- The least important level that is admitted; none if no line is. -/
  level : Option Level
  deriving DecidableEq, Repr

/-- The directives, in the order given. -/
abbrev Filter := List Directive

namespace Filter

/-- The level of a rank; none admits nothing. -/
def ofRank : Nat → Option (Option Level)
  | 0 => some none
  | 1 => some (some .error)
  | 2 => some (some .warn)
  | 3 => some (some .info)
  | 4 => some (some .debug)
  | 5 => some (some .trace)
  | _ => none

/-- Reads a rank, with or without a plus sign. -/
def readRank (cs : List Char) : Option (Option Level) :=
  let digits := match cs with
    | '+' :: rest => rest
    | _ => cs
  if digits.isEmpty ∨ ¬ digits.all Char.isDigit then none
  else ofRank (digits.foldl (fun n c => n * 10 + (c.toNat - '0'.toNat)) 0)

/-- Reads a level by its rank or its name of either case. -/
def readLevel (cs : List Char) : Option (Option Level) :=
  match readRank cs with
  | some level => some level
  | none =>
    match String.ofList (cs.map Char.toLower) with
    | "off" => some none
    | "error" => some (some .error)
    | "warn" => some (some .warn)
    | "info" => some (some .info)
    | "debug" => some (some .debug)
    | "trace" => some (some .trace)
    | _ => none

/-- Reads the level of a directive with a target; without one every level is admitted. -/
def readBound : List Char → Option (Option Level)
  | [] => some (some .trace)
  | cs => readLevel cs

/-- A directive that is a single word: a level, or a target of which all is admitted. -/
def ofWord (cs : List Char) : Directive :=
  match readLevel cs with
  | some level => ⟨none, [], level⟩
  | none => ⟨some (String.ofList cs), [], some .trace⟩

/-- May a directive begin with this character? -/
def isInitial (c : Char) : Bool :=
  c == '-' || c == ':' || c == '_' || Text.isAlphanumeric c

/-! ### Places in a directive -/

/-- What the next character of a directive belongs to; a part knows where it begins. -/
inductive Place where
  | front
  | word
  | span (start : Nat)
  | field (start : Nat)
  | behindFields
  | behindSpan
  | level (start : Nat)

/-- What has been read of a directive.  It is about a span or the value of a field unless it is
`plain`. -/
structure Draft where
  place : Place
  target : Option String
  plain : Bool
  fields : List String

namespace Draft

/-- Nothing has been read. -/
def empty : Draft := ⟨.front, none, true, []⟩

/-- Takes in a field: its name, and perhaps a value behind an equals sign, which is a number or a
pattern. -/
def addField (d : Draft) (cs : List Char) : Option Draft :=
  if cs.isEmpty then none
  else match Text.splitBy (· == '=') cs with
    | name :: value :: _ =>
      if (Number.Binary.read value).isSome || isPattern value then
        some { d with plain := false, fields := d.fields ++ [String.ofList name] }
      else none
    | _ => some { d with fields := d.fields ++ [String.ofList cs] }

/-- Takes in the character at a position; `part` gives the text between two positions. -/
def step (part : Nat → Nat → List Char) (d : Draft) (i : Nat) (c : Char) : Option Draft :=
  match d.place with
  | .front =>
    if c = '[' then some { d with place := .span (i + 1) }
    else if isInitial c then some { d with place := .word } else none
  | .word =>
    if c = '=' then
      some { d with target := some (String.ofList (part 0 i)), place := .level (i + 1) }
    else if c = '[' then
      some { d with target := some (String.ofList (part 0 i)), place := .span (i + 1) }
    else some d
  | .span start =>
    if c = ']' then some { d with plain := false, place := .behindSpan }
    else if c = '\x7b' then
      some { d with plain := d.plain && i == start, place := .field (i + 1) }
    else some d
  | .field start =>
    if c = '\x7d' then
      (d.addField (part start i)).map fun d => { d with place := .behindFields }
    else some d
  | .behindFields => if c = ']' then some { d with place := .behindSpan } else none
  | .behindSpan => if c = '=' then some { d with place := .level (i + 1) } else none
  | .level _ => some d

/-- Takes in characters from a position on. -/
def steps (part : Nat → Nat → List Char) (d : Draft) (i : Nat) : List Char → Option Draft
  | [] => some d
  | c :: cs => (d.step part i c).bind fun d => d.steps part (i + 1) cs

/-- The directive, if it is plain, at the end of a text. -/
def finish (d : Draft) (text : List Char) : Option (Option Directive) :=
  match d.place with
  | .word => some (some (ofWord text))
  | .level start =>
    (readBound (text.drop start)).map fun level =>
      if d.plain then some ⟨d.target, d.fields, level⟩ else none
  | .behindSpan => some (if d.plain then some ⟨d.target, d.fields, some .trace⟩ else none)
  | _ => none

end Draft

/-- Reads a directive; one that is not plain has no effect.  The blanks around a directive are no
places of it, but the places are counted from the beginning of the text. -/
def readDirective (cs : List Char) : Option (Option Directive) := do
  let part (low high : Nat) : List Char := (cs.drop low).take (high - low)
  let d ← Draft.empty.steps part 0 (Text.trim cs)
  d.finish cs

/-- The filter without directives: errors are admitted. -/
def errorsOnly : Filter := [⟨none, [], some .error⟩]

/-- Reads a filter: directives between commas. -/
def read (s : String) : Option Filter := do
  let parts := (Text.splitBy (· == ',') s.toList).filter (!·.isEmpty)
  let directives ← parts.mapM readDirective
  some (if directives.isEmpty then errorsOnly else directives.filterMap id)

/-! ## Deciding -/

/-- The fields of a line: its message, and those of the records of connections, which also tell
where they were made. -/
def fieldsOf (l : Line) : List String :=
  if l.target = connectionTarget then
    ["message", "log.target", "log.module_path", "log.file", "log.line"]
  else ["message"]

/-- Is a directive about a line? -/
def concerns (d : Directive) (l : Line) : Bool :=
  (match d.target with
    | none => true
    | some front => (Text.behind front.toList l.target.toList).isSome) &&
  d.fields.all ((fieldsOf l).contains ·)

/-- How special the target of a directive is. -/
def weight (d : Directive) : Nat :=
  match d.target with
  | none => 0
  | some front => front.utf8ByteSize + 1

/-- Does the first directive say more about a line than the second one?  Of two that say as much,
about different fields, the one whose field comes later in the order of the texts does. -/
def isHeavier (a b : Directive) : Bool :=
  if weight a = weight b then
    if a.fields.length = b.fields.length then decide (b.fields < a.fields)
    else b.fields.length < a.fields.length
  else weight b < weight a

/-- The heavier of two directives, the second one of two that weigh the same. -/
def heavier (best : Option Directive) (d : Directive) : Option Directive :=
  match best with
  | some b => if isHeavier b d then some b else some d
  | none => some d

/-- The directive that decides about a line. -/
def decisive (f : Filter) (l : Line) : Option Directive :=
  (f.filter (concerns · l)).foldl heavier none

/-- Is a line admitted? -/
def admits (f : Filter) (l : Line) : Bool :=
  match (f.decisive l).bind (·.level) with
  | some level => l.level.rank ≤ level.rank
  | none => false

/-- The decisive directive is one of the filter's, about the line. -/
theorem decisive_mem {f : Filter} {l : Line} {d : Directive}
    (h : f.decisive l = some d) : d ∈ f ∧ concerns d l = true := by
  have general : ∀ (ds : List Directive) (best : Option Directive),
      ds.foldl heavier best = some d → best = some d ∨ d ∈ ds := by
    intro ds
    induction ds with
    | nil => intro best hb; exact .inl hb
    | cons x xs ih =>
      intro best hb
      rcases ih (heavier best x) hb with hx | hx
      · cases best with
        | none => simp [heavier] at hx; exact .inr (by simp [hx])
        | some b =>
          by_cases hw : isHeavier b x
          · simp [heavier, hw] at hx; exact .inl (by simp [hx])
          · simp [heavier, hw] at hx; exact .inr (by simp [hx])
      · exact .inr (List.mem_cons_of_mem _ hx)
  rcases general _ _ h with hn | hm
  · simp at hn
  · exact List.mem_filter.mp hm

end Filter

end AlarmMonitor.Log
