import AlarmMonitor.Settings.Yaml.Quoted

/-!
# Tokens of YAML

The marks of the structure of a text, most of which are not written: where a collection begins and
ends in a block follows from the columns.  Names of anchors, tags and directives are read here.
-/

set_option autoImplicit false

namespace AlarmMonitor.Settings.Yaml

/-- A tag as written: a handle, which a directive may give a meaning, and a suffix. -/
structure Tag where
  handle : String
  suffix : String
  deriving DecidableEq, Repr

inductive Token where
  /-- The directive of the version. -/
  | version
  /-- A directive that gives a handle a meaning, or an unknown one, of an empty handle. -/
  | meaning (tag : Tag)
  | documentStart
  | documentEnd
  | blockSequence
  | blockMapping
  /-- The end of a collection in a block. -/
  | blockEnd
  | blockEntry
  | flowSequence
  | flowSequenceEnd
  | flowMapping
  | flowMappingEnd
  | flowEntry
  | key
  | value
  | alias (name : String)
  | anchor (name : String)
  | tag (tag : Tag)
  | scalar (isPlain : Bool) (text : String)
  deriving DecidableEq, Repr

/-! ## Anchors -/

/-- May the character stand in the name of an anchor? -/
def isAnchorChar (c : Char) : Bool :=
  !(isBlank c || isBreak c || isFlowMark c || c == '\ufeff')

/-- The name of an anchor or an alias behind its mark, and the place behind it. -/
def anchorName (c : Cursor) : Option (String × Cursor) :=
  let (name, after) := (c.pass 1).passWhile isAnchorChar
  if name.isEmpty then none else some (String.ofList name, after)

/-! ## Tags -/

/-- May the character stand in the address that a tag writes in full? -/
def isAddressChar (c : Char) : Bool :=
  isWordChar c || "#;/?:@&=+$,_.!~*'()[]%".toList.contains c

/-- May the character stand in the suffix of a tag? -/
def isSuffixChar (c : Char) : Bool := isAddressChar c && !isFlowMark c && c != '!'

/-- The character of bytes in hexadecimal digits behind percent signs, and the number of characters
that write it.  The bytes of a character are put together as one number. -/
def escapedByte : List Char → Option (Char × Nat)
  | '%' :: a :: b :: rest => do
    let n := (← Json.Lexer.hexValue a) * 16 + (← Json.Lexer.hexValue b)
    if n < 0x80 then return (Char.ofNat n, 3)
    else if n < 0xC0 ∨ 0xE0 ≤ n then none
    else match rest with
      | '%' :: a :: b :: _ =>
        let m := (← Json.Lexer.hexValue a) * 16 + (← Json.Lexer.hexValue b)
        let both := n * 256 + m
        if m < 0x80 ∨ 0xC0 ≤ m ∨ (0xD800 ≤ both ∧ both ≤ 0xDFFF) then none
        else return (Char.ofNat both, 6)
      | _ => none
  | _ => none

/-- The characters of an address at this place, and the place behind them.  The fuel is more than
the length of the rest. -/
def address (p : Char → Bool) : Nat → List Char → Cursor → Option (List Char × Cursor)
  | 0, _, _ => none
  | fuel + 1, acc, c =>
    match c.next with
    | some '%' => do
      let (d, count) ← escapedByte c.rest
      address p fuel (d :: acc) (c.pass count)
    | some d => if p d then address p fuel (d :: acc) (c.pass 1) else some (acc.reverse, c)
    | none => some (acc.reverse, c)

/-- The address at this place, and the place behind it. -/
def addressAt (p : Char → Bool) (c : Cursor) : Option (List Char × Cursor) :=
  address p (c.rest.length + 1) [] c

/-- The handle at this place: an exclamation mark, a word, and perhaps another mark. -/
def handleAt (c : Cursor) : List Char × Cursor :=
  let (word, after) := (c.pass 1).passWhile isWordChar
  if after.next == some '!' then ('!' :: word ++ ['!'], after.pass 1) else ('!' :: word, after)

/-- Does the handle end with its own mark, so that a suffix must be told from it? -/
def isClosedHandle (handle : List Char) : Bool :=
  2 ≤ handle.length && handle.getLast? == some '!'

/-- The tag between angle brackets, or in parts; and the place behind it. -/
def tagParts (c : Cursor) : Option (Tag × Cursor) :=
  if c.second == some '<' then do
    let (cs, c) ← addressAt isAddressChar (c.pass 2)
    if c.next == some '>' then return (⟨"", String.ofList cs⟩, c.pass 1) else none
  else do
    let (handle, c) := handleAt c
    let (cs, c) ← addressAt isSuffixChar c
    if isClosedHandle handle then
      if cs.isEmpty then none
      else return (⟨String.ofList handle, String.ofList cs⟩, c)
    else
      let suffix := handle.drop 1 ++ cs
      return (if suffix.isEmpty then ⟨"", "!"⟩ else ⟨"!", String.ofList suffix⟩, c)

/-- A tag, and the place behind it, where a word must end. -/
def tagAt (flow : Bool) (c : Cursor) : Option (Tag × Cursor) := do
  let (tag, c) ← tagParts c
  if endsWord c.next || (flow && c.next.any isFlowMark) then return (tag, c) else none

/-! ## Directives -/

/-- A number of one to nine digits, and the place behind it. -/
def versionNumber (c : Cursor) : Option Cursor :=
  let (ds, after) := c.passWhile Char.isDigit
  if ds.isEmpty || 9 < ds.length then none else some after

/-- The place behind the version that a directive names. -/
def versionAt (c : Cursor) : Option Cursor := do
  let c ← versionNumber (c.passWhile isBlank).2
  if c.next == some '.' then versionNumber (c.pass 1) else none

/-- The meaning that a directive gives a handle, and the place behind it. -/
def meaningAt (c : Cursor) : Option (Tag × Cursor) := do
  let c := (c.passWhile isBlank).2
  if c.next != some '!' then none
  let (handle, c) := handleAt c
  if !isClosedHandle handle && handle != ['!'] then none
  let c := (c.passWhile isBlank).2
  if !c.next.any fun d => d == '!' || isSuffixChar d then none
  let (first, c) := if c.next == some '!' then (['!'], c.pass 1) else ([], c)
  let (cs, c) ← addressAt isAddressChar c
  if endsWord c.next then return (⟨String.ofList handle, String.ofList (first ++ cs)⟩, c) else none

/-- A directive, and the place behind its line. -/
def directiveAt (c : Cursor) : Option (Token × Cursor) := do
  let (name, c) := (c.pass 1).passWhile isWordChar
  if name.isEmpty || !endsWord c.next then none
  let (token, c) ←
    if name = "YAML".toList then (versionAt c).map fun c => (Token.version, c)
    else if name = "TAG".toList then (meaningAt c).map fun (tag, c) => (Token.meaning tag, c)
    else some (.meaning ⟨"", ""⟩, c.passLine)
  let c ← c.behindSpace
  if !endsLine c.next then none
  return (token, if c.rest.isEmpty then c else c.passBreak)

end AlarmMonitor.Settings.Yaml
