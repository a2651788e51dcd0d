import AlarmMonitor.Settings.Yaml.Block
import AlarmMonitor.Settings.Yaml.Plain
import AlarmMonitor.Settings.Yaml.Token

/-!
# The layout of YAML

Reads a text from mark to mark and finds the tokens that are not written.  Whether a scalar is a key
shows only at the colon behind it; its place among the tokens is therefore kept as a candidate, and
the tokens before a key are put there afterwards.  In a block the columns tell where collections
begin and end.
-/

set_option autoImplicit false

namespace AlarmMonitor.Settings.Yaml

/-- A place where a key may have begun: the number of tokens before it and where it stands.  One
that is required must turn out to be a key. -/
structure Candidate where
  token : Nat
  required : Bool
  index : Nat
  line : Nat
  column : Nat

/-- A column at which something around the current block begins; some are asked of the lines of a
value only, and no block ends there. -/
structure Indent where
  column : Int
  isBlock : Bool

/-- The state of reading: the place, and the tokens so far, the last one first. -/
structure Layout where
  cursor : Cursor
  tokens : List Token := []
  /-- The column of the last token if it is an anchor or a tag. -/
  property : Option Nat := none
  /-- The column of the current block, and those around it. -/
  indent : Int := -1
  indents : List Indent := []
  /-- Where a key may have begun, and the same for every bracket around the place. -/
  candidate : Option Candidate := none
  outer : List (Option Candidate) := []
  /-- May a key begin here? -/
  keyAllowed : Bool := true
  /-- The place at which a colon needs no space behind it. -/
  adjacent : Option Nat := none
  /-- Has a mapping in brackets begun with a mark of its own? -/
  markedMapping : Bool := false
  /-- For every square bracket around the place, whether a pair without braces has begun in it. -/
  pairs : List Bool := []

namespace Layout

/-! ## Parts of the state -/

/-- Is the place within brackets? -/
def inFlow (l : Layout) : Bool := !l.outer.isEmpty

/-- The column of the place. -/
def column (l : Layout) : Int := l.cursor.column

def push (l : Layout) (t : Token) : Layout := { l with tokens := t :: l.tokens, property := none }

/-- Puts a token behind the first tokens. -/
def insert (l : Layout) (count : Nat) (t : Token) : Layout :=
  let behind := l.tokens.length - count
  { l with tokens := l.tokens.take behind ++ t :: l.tokens.drop behind }

/-- Takes the place as one where a key may begin. -/
def saveCandidate (l : Layout) : Layout :=
  if l.keyAllowed then
    let required := !l.inFlow && l.indent == l.column && l.indents.head?.any (·.isBlock)
    let c := l.cursor
    { l with candidate := some ⟨l.tokens.length, required, c.index, c.line, c.column⟩ }
  else l

/-- Gives the candidate up. -/
def dropCandidate (l : Layout) : Option Layout :=
  if l.candidate.any (·.required) then none else some { l with candidate := none }

/-- The length a key may have. -/
def longestKey : Nat := 1024

/-- In a block, gives the candidate up if the line has ended or too much has been passed. -/
def dropStale (l : Layout) : Option Layout :=
  let isStale := l.candidate.any fun k =>
    k.line < l.cursor.line || k.index + longestKey < l.cursor.index
  if !l.inFlow && isStale then l.dropCandidate else some l

/-! ## Columns -/

/-- Ends the blocks that begin behind a column. -/
def endBlocks (column : Int) : List Indent → Layout → Layout
  | [], l => l
  | i :: rest, l =>
    if l.indent ≤ column then l
    else
      let l := if i.isBlock then l.push .blockEnd else l
      endBlocks column rest { l with indent := i.column, indents := rest }

/-- Outside of brackets, ends the blocks that begin behind a column. -/
def unroll (l : Layout) (column : Int) : Layout :=
  if l.inFlow then l else endBlocks column l.indents l

/-- Leaves the columns that are no blocks. -/
def leaveValues : List Indent → Layout → Layout
  | i :: rest, l =>
    if i.isBlock then l else leaveValues rest { l with indent := i.column, indents := rest }
  | [], l => l

/-- Outside of brackets, begins a block at a column, unless one has begun there.  Its token comes
behind the first tokens, or at the end. -/
def beginBlock (l : Layout) (column : Int) (place : Option Nat) (t : Token) : Layout :=
  if l.inFlow then l
  else
    let l := match l.indents with
      | i :: rest =>
        if l.indent ≤ column && !i.isBlock then { l with indent := i.column, indents := rest }
        else l
      | [] => l
    if l.indent < column then
      let l := { l with indent := column, indents := ⟨l.indent, true⟩ :: l.indents }
      match place with
      | some count => l.insert count t
      | none => l.push t
    else l

/-- Asks the lines of a value to stand further right than its block. -/
def beginValue (l : Layout) : Layout :=
  if !l.inFlow && l.indents.head?.any (·.isBlock) then
    { l with indent := l.indent + 1, indents := ⟨l.indent, false⟩ :: l.indents }
  else l

/-! ## Space between tokens -/

/-- Passes space, comments and line ends.  In the indentation of a block there must be no tab, unless
the line is empty.  The fuel is more than the length of the rest. -/
def skip : Nat → Layout → Option Layout
  | 0, l => some l
  | fuel + 1, l =>
    let c := l.cursor
    match c.next with
    | some '\t' =>
      if !l.indents.isEmpty && c.leading && l.column < l.indent then do
        let after ← c.behindSpace
        if endsLine after.next then skip fuel { l with cursor := after } else none
      else skip fuel { l with cursor := c.passBlank }
    | some ' ' => skip fuel { l with cursor := c.passBlank }
    | some '#' => skip fuel { l with cursor := c.passLine }
    | some d =>
      if isBreak d then
        skip fuel { l with cursor := c.passBreak, keyAllowed := l.keyAllowed || !l.inFlow }
      else some l
    | none => some l

/-- Passes space, comments and line ends up to the next token. -/
def skipAll (l : Layout) : Option Layout := l.skip (l.cursor.rest.length + 1)

/-- Passes space behind the mark of a key: at least one blank or line end, and no tab.  The fuel is
more than the length of the rest. -/
def skipBehindKey : Nat → Bool → Layout → Option Layout
  | 0, _, _ => none
  | fuel + 1, found, l =>
    let c := l.cursor
    match c.next with
    | some ' ' => skipBehindKey fuel true { l with cursor := c.passBlank }
    | some '#' => skipBehindKey fuel found { l with cursor := c.passLine }
    | some '\t' => none
    | next =>
      if next.any isBreak then
        skipBehindKey fuel true
          { l with cursor := c.passBreak, keyAllowed := l.keyAllowed || !l.inFlow }
      else if found then some l
      else none

/-! ## Brackets -/

/-- How deep brackets may be nested. -/
def deepest : Nat := 255

/-- An opening bracket, which may begin a key. -/
def openBracket (l : Layout) (t : Token) : Option Layout := do
  let l := l.saveCandidate.beginValue
  if deepest ≤ l.outer.length then none
  let l := { l with outer := l.candidate :: l.outer, candidate := none, keyAllowed := true }
  let l := if t = .flowMapping then { l with markedMapping := true }
    else { l with pairs := false :: l.pairs }
  return { l with cursor := ← (l.cursor.pass 1).behindSpace }.push t

/-- Ends the pair without braces in the innermost square brackets. -/
def endPair (l : Layout) : Layout :=
  match l.pairs with
  | true :: rest => { l with pairs := false :: rest, markedMapping := false }.push .flowMappingEnd
  | _ => l

/-- A closing bracket.  What it closes may be a key itself. -/
def closeBracket (l : Layout) (t : Token) : Option Layout := do
  let l ← l.dropCandidate
  let l := match l.outer with
    | k :: rest => { l with candidate := k, outer := rest }
    | [] => l
  let l := { l with keyAllowed := false }
  let l := if t = .flowSequenceEnd then { l.endPair with pairs := l.pairs.drop 1 } else l
  let after ← (l.cursor.pass 1).behindSpace
  let adjacent := if l.inFlow then some after.index else l.adjacent
  return { l with cursor := after, adjacent }.push t

/-- A comma. -/
def comma (l : Layout) : Option Layout := do
  let l ← l.dropCandidate
  let l := { l with keyAllowed := true }.endPair
  return { l with cursor := ← (l.cursor.pass 1).behindSpace }.push .flowEntry

/-! ## Marks of blocks -/

/-- The mark of an entry of a sequence. -/
def entry (l : Layout) : Option Layout := do
  if l.inFlow || !l.keyAllowed then none
  if l.column = 0 && l.property == some 0 && -1 < l.indent then none
  let l := { l with cursor := l.cursor.pass 1 }.beginBlock l.cursor.column none .blockSequence
  let space ← l.cursor.passSpace true
  if space.tabs && space.after.next == some '-' && endsWord space.after.second then none
  let l := { l with cursor := space.after }
  let l := if l.cursor.next.any fun d => isBreak d || isFlowMark d then l.beginValue else l
  let l ← l.dropCandidate
  return { l with keyAllowed := true }.push .blockEntry

/-- The mark of a key. -/
def keyMark (l : Layout) : Option Layout := do
  if !l.inFlow && !l.keyAllowed then none
  let l := if l.inFlow then { l with markedMapping := true }
    else l.beginBlock l.cursor.column none .blockMapping
  let l ← l.dropCandidate
  let l := { l with keyAllowed := !l.inFlow, cursor := l.cursor.pass 1 }
  let l ← l.skipBehindKey (l.cursor.rest.length + 1) false
  return l.push .key

/-- The place behind the mark of a value.  A tab is not enough space before a word. -/
def behindColon (c : Cursor) : Option Cursor :=
  let c := c.pass 1
  if c.next == some '\t' then do
    let space ← c.passSpace true
    if !space.blanks && space.after.next.any isWordChar then none else return space.after
  else some c

/-- The mark of a value behind a key that has begun at a candidate. -/
def valueOfKey (l : Layout) (k : Candidate) (isPair : Bool) (line : Nat) : Option Layout := do
  let l := l.insert k.token .key
  if isPair && k.line < line then none
  let l := if isPair then l.insert k.token .flowMapping else l
  let l := (l.beginBlock k.column (some k.token) .blockMapping).beginValue
  return { l with candidate := none, keyAllowed := false }

/-- The mark of a value behind a marked key, or behind none. -/
def valueAlone (l : Layout) (isPair : Bool) (column : Nat) : Option Layout := do
  let l := if isPair then l.push .flowMapping else l
  if !l.inFlow && !l.keyAllowed then none
  let l := (l.beginBlock column none .blockMapping).beginValue
  return { l with keyAllowed := !l.inFlow }

/-- The mark of a value.  In square brackets it makes a pair without braces. -/
def valueMark (l : Layout) : Option Layout := do
  let start := l.cursor
  let isPair := !l.pairs.isEmpty && !l.markedMapping
  let l := if isPair then { l with pairs := true :: l.pairs.drop 1 } else l
  let l := { l with cursor := ← behindColon start }
  let l ← match l.candidate with
    | some k => l.valueOfKey k isPair start.line
    | none => l.valueAlone isPair start.column
  return l.push .value

/-! ## Documents -/

/-- Ends all blocks before what stands between documents. -/
def betweenDocuments (l : Layout) : Option Layout := do
  let l ← (l.unroll (-1)).dropCandidate
  return { l with keyAllowed := false }

def directive (l : Layout) : Option Layout := do
  let l ← l.betweenDocuments
  let (t, after) ← directiveAt l.cursor
  return { l with cursor := after }.push t

def documentStart (l : Layout) : Option Layout := do
  let l ← l.betweenDocuments
  return { l with cursor := l.cursor.pass 3 }.push .documentStart

/-- The end of a document, behind which the line must end. -/
def documentEnd (l : Layout) : Option Layout := do
  let l ← l.betweenDocuments
  let after ← (l.cursor.pass 3).behindSpace
  if endsLine after.next then return { l with cursor := after }.push .documentEnd else none

/-! ## Scalars and their properties -/

/-- An anchor, an alias or a tag, which may begin a key. -/
def named (l : Layout) (isProperty : Bool) (found : Option (Token × Cursor)) : Option Layout := do
  let column := l.cursor.column
  let l := { l.saveCandidate with keyAllowed := false }
  let (t, after) ← found
  let l := { l with cursor := after }.push t
  return { l with property := if isProperty then some column else none }

/-- A scalar between quotes.  Within brackets a colon right behind it needs no space. -/
def quoted (l : Layout) (quote : Char) : Option Layout := do
  let l := { l.saveCandidate with keyAllowed := false }
  let (text, after) ← quotedScalar l.inFlow l.indent quote l.cursor
  let l ← { l with cursor := after }.skipAll
  return { l with adjacent := some l.cursor.index }.push (.scalar false text)

/-- A block scalar. -/
def block (l : Layout) : Option Layout := do
  let l := { l.saveCandidate with keyAllowed := true }
  let l := leaveValues l.indents l
  let (text, after) ← blockScalar l.indent l.cursor
  return { l with cursor := after }.push (.scalar false text)

/-- A plain scalar.  If a line end follows it, a key may begin behind it. -/
def plain (l : Layout) : Option Layout := do
  let l := leaveValues l.indents l.saveCandidate
  let (text, after) ← plainScalar l.inFlow (l.indent + 1) l.cursor
  return { l with cursor := after, keyAllowed := after.leading }.push (.scalar true text)

/-! ## Tokens -/

/-- Reads the token that begins with a character. -/
def token (l : Layout) (c : Char) : Option Layout :=
  let next := l.cursor.second
  if c = '[' then l.openBracket .flowSequence
  else if c = '\x7b' then l.openBracket .flowMapping
  else if c = ']' then l.closeBracket .flowSequenceEnd
  else if c = '\x7d' then l.closeBracket .flowMappingEnd
  else if c = ',' then l.comma
  else if c = '-' && endsWord next then l.entry
  else if c = '?' && endsWord next then l.keyMark
  else if c = ':' && (endsWord next ||
      (l.inFlow && (next.any isFlowMark || l.adjacent == some l.cursor.index))) then l.valueMark
  else if c = '*' then l.named false ((anchorName l.cursor).map fun (n, c) => (.alias n, c))
  else if c = '&' then l.named true ((anchorName l.cursor).map fun (n, c) => (.anchor n, c))
  else if c = '!' then l.named true ((tagAt l.inFlow l.cursor).map fun (t, c) => (.tag t, c))
  else if (c = '|' || c = '>') && !l.inFlow then l.block
  else if c = '\'' || c = '"' then l.quoted c
  else if ['%', '@', '\x60'].contains c then none
  else l.plain

/-- Reads the next token, of which a limit of documents and a directive stand only at the beginning
of a line. -/
def step (l : Layout) (c : Char) : Option Layout :=
  let rest := l.cursor.rest
  if l.column = 0 && c = '%' then l.directive
  else if l.column = 0 && atLimit '-' rest then l.documentStart
  else if l.column = 0 && atLimit '.' rest then l.documentEnd
  else if l.column < l.indent then none
  else l.token c

/-- Reads tokens up to the end.  The fuel is more than the length of the rest. -/
def run : Nat → Layout → Option (List Token)
  | 0, _ => none
  | fuel + 1, l => do
    let l ← (← l.skipAll).dropStale
    let l := l.unroll l.column
    match l.cursor.next with
    | some c => run fuel (← l.step c)
    | none => return ((← l.dropCandidate).unroll (-1)).tokens.reverse

end Layout

/-- The tokens of a text, which ends at the first null character. -/
def tokens (s : String) : Option (List Token) :=
  let cs := s.toList.takeWhile (· != '\x00')
  Layout.run (cs.length + 1) { cursor := Cursor.ofText cs }

end AlarmMonitor.Settings.Yaml
