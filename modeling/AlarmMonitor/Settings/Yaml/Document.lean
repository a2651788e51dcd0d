import AlarmMonitor.Settings.Yaml.Layout
import AlarmMonitor.Settings.Yaml.Node

/-!
# Documents of YAML

The node that the tokens of a text stand for.  What is left out counts as nothing.  An anchor gives a
node a name for aliases behind it; while the node is not complete, an alias of it is bad.  A
configuration is one document, or none.
-/

set_option autoImplicit false

namespace AlarmMonitor.Settings.Yaml

/-! ## Anchors and tags -/

/-- The anchors so far.  A name belongs to the anchor that was given last; every anchor has a number
and, once it is complete, a node. -/
structure Anchors where
  names : List (String × Nat) := []
  nodes : List (Nat × Node) := []

namespace Anchors

/-- Gives a name to the next anchor. -/
def name (a : Anchors) (s : String) : Anchors := { a with names := (s, a.names.length) :: a.names }

/-- The number of the anchor given last. -/
def latest (a : Anchors) : Nat := a.names.length - 1

/-- The node of a name. -/
def find (a : Anchors) (s : String) : Option Node :=
  (a.names.lookup s).map fun number => (a.nodes.lookup number).getD .bad

/-- Completes an anchor, if there is one. -/
def complete (a : Anchors) (number : Option Nat) (n : Node) : Anchors :=
  match number with
  | some k => { a with nodes := (k, n) :: a.nodes }
  | none => a

end Anchors

/-- What a tag stands for.  A handle with a mark of its own at its end must have a meaning. -/
def Tag.resolve (meanings : List Tag) (tag : Tag) : Option Tag :=
  match meanings.find? (·.handle = tag.handle) with
  | some m => some { tag with handle := m.suffix }
  | none =>
    if tag.handle = "!!" then some { tag with handle := Node.coreHandle }
    else if isClosedHandle tag.handle.toList then none
    else some tag

/-! ## Nodes from tokens -/

/-- What is left to read, and the anchors so far. -/
structure Place where
  tokens : List Token
  anchors : Anchors := {}

/-- The properties of a node: the number of its anchor and its tag. -/
structure Properties where
  anchor : Option Nat := none
  tag : Option Tag := none

/-- Has the node properties? -/
def Properties.isSome (p : Properties) : Bool := p.anchor.isSome || p.tag.isSome

/-- The properties of the next node, in either order, and the place behind them. -/
def properties (meanings : List Tag) (s : Place) : Option (Properties × Place) :=
  let named (name : String) : Anchors := s.anchors.name name
  match s.tokens with
  | .anchor name :: .tag tag :: rest => do
    return (⟨(named name).latest, ← tag.resolve meanings⟩, ⟨rest, named name⟩)
  | .anchor name :: rest => some (⟨(named name).latest, none⟩, ⟨rest, named name⟩)
  | .tag tag :: .anchor name :: rest => do
    return (⟨(named name).latest, ← tag.resolve meanings⟩, ⟨rest, named name⟩)
  | .tag tag :: rest => do return (⟨none, ← tag.resolve meanings⟩, ⟨rest, s.anchors⟩)
  | _ => some ({}, s)

/-- Does the next token end an entry of a mapping in a block? -/
def endsBlockPart : List Token → Bool
  | .key :: _ => true
  | .value :: _ => true
  | .blockEnd :: _ => true
  | _ => false

/-- Does the next token end an entry of a sequence in a block? -/
def endsBlockEntry : List Token → Bool
  | .blockEntry :: _ => true
  | .blockEnd :: _ => true
  | _ => false

/-- Does the next token end a value in braces? -/
def endsFlowValue : List Token → Bool
  | .flowEntry :: _ => true
  | .flowMappingEnd :: _ => true
  | _ => false

/-- Does the next token end a value in square brackets? -/
def endsPairValue : List Token → Bool
  | .flowEntry :: _ => true
  | .flowSequenceEnd :: _ => true
  | _ => false

mutual

/-- The next node; a block, and a sequence that is not indented, are allowed only in some places.  The
fuel is more than four times the number of tokens. -/
def node (meanings : List Tag) (block indentless : Bool) : Nat → Place → Option (Node × Place)
  | 0, _ => none
  | fuel + 1, s =>
    match s.tokens with
    | .alias name :: rest => (s.anchors.find name).map fun n => (n, { s with tokens := rest })
    | _ => do
      let (p, s) ← properties meanings s
      let (n, s) ← content meanings block indentless p fuel s
      return (n, { s with anchors := s.anchors.complete p.anchor n })

/-- What a node is apart from its properties.  A node of properties alone is an empty scalar. -/
def content (meanings : List Tag) (block indentless : Bool) (p : Properties) :
    Nat → Place → Option (Node × Place)
  | 0, _ => none
  | fuel + 1, s =>
    let empty : Option (Node × Place) :=
      if p.isSome then some (.ofScalar p.tag true "", s) else none
    match s.tokens with
    | .scalar isPlain text :: rest => some (.ofScalar p.tag isPlain text, { s with tokens := rest })
    | .flowSequence :: rest => flowItems meanings fuel true [] { s with tokens := rest }
    | .flowMapping :: rest => flowEntries meanings fuel true [] { s with tokens := rest }
    | .blockSequence :: rest =>
      if block then blockItems meanings fuel [] { s with tokens := rest } else empty
    | .blockMapping :: rest =>
      if block then blockEntries meanings fuel [] { s with tokens := rest } else empty
    | .blockEntry :: _ => if indentless then indentlessItems meanings fuel [] s else empty
    | _ => empty

/-- The items of a sequence in a block, the last one first. -/
def blockItems (meanings : List Tag) : Nat → List Node → Place → Option (Node × Place)
  | 0, _, _ => none
  | fuel + 1, acc, s =>
    match s.tokens with
    | .blockEnd :: rest => some (.sequence acc.reverse, { s with tokens := rest })
    | .blockEntry :: rest =>
      let s := { s with tokens := rest }
      if endsBlockEntry rest then blockItems meanings fuel (.nothing :: acc) s
      else do
        let (n, s) ← node meanings true false fuel s
        blockItems meanings fuel (n :: acc) s
    | _ => none

/-- The items of a sequence that stands in the column of the mapping around it. -/
def indentlessItems (meanings : List Tag) : Nat → List Node → Place → Option (Node × Place)
  | 0, _, _ => none
  | fuel + 1, acc, s =>
    match s.tokens with
    | .blockEntry :: rest =>
      let s := { s with tokens := rest }
      if endsBlockEntry rest || endsBlockPart rest then
        indentlessItems meanings fuel (.nothing :: acc) s
      else do
        let (n, s) ← node meanings true false fuel s
        indentlessItems meanings fuel (n :: acc) s
    | _ => some (.sequence acc.reverse, s)

/-- The keys and values of a mapping in a block, the last one first. -/
def blockEntries (meanings : List Tag) : Nat → List Node → Place → Option (Node × Place)
  | 0, _, _ => none
  | fuel + 1, acc, s =>
    match s.tokens with
    | .blockEnd :: rest => (Node.ofEntries acc.reverse).map (·, { s with tokens := rest })
    | .key :: rest => do
      let (k, s) ← part meanings true (endsBlockPart rest) fuel { s with tokens := rest }
      blockValue meanings fuel (k :: acc) s
    | .value :: _ => blockValue meanings fuel (.nothing :: acc) s
    | _ => none

/-- A value in a block, and the entries behind it. -/
def blockValue (meanings : List Tag) : Nat → List Node → Place → Option (Node × Place)
  | 0, _, _ => none
  | fuel + 1, acc, s =>
    match s.tokens with
    | .value :: rest => do
      let (v, s) ← part meanings true (endsBlockPart rest) fuel { s with tokens := rest }
      blockEntries meanings fuel (v :: acc) s
    | _ => blockEntries meanings fuel (.nothing :: acc) s

/-- A key or a value, which may be left out. -/
def part (meanings : List Tag) (block isLeftOut : Bool) : Nat → Place → Option (Node × Place)
  | 0, _ => none
  | fuel + 1, s => if isLeftOut then some (.nothing, s) else node meanings block block fuel s

/-- The keys and values of a mapping in braces, the last one first. -/
def flowEntries (meanings : List Tag) : Nat → Bool → List Node → Place → Option (Node × Place)
  | 0, _, _, _ => none
  | fuel + 1, isFirst, acc, s =>
    match s.tokens, isFirst with
    | .flowMappingEnd :: rest, _ => (Node.ofEntries acc.reverse).map (·, { s with tokens := rest })
    | .flowEntry :: rest, false => flowEntry meanings fuel acc { s with tokens := rest }
    | _, false => none
    | _, true => flowEntry meanings fuel acc s

/-- An entry in braces, and the entries behind it. -/
def flowEntry (meanings : List Tag) : Nat → List Node → Place → Option (Node × Place)
  | 0, _, _ => none
  | fuel + 1, acc, s =>
    match s.tokens with
    | .flowMappingEnd :: _ => flowEntries meanings fuel false acc s
    | .key :: rest => do
      let isLeftOut := endsFlowValue rest || rest.head? == some .value
      let (k, s) ← part meanings false isLeftOut fuel { s with tokens := rest }
      flowValue meanings fuel (k :: acc) s
    | .value :: _ => flowValue meanings fuel (.nothing :: acc) s
    | _ => do
      let (k, s) ← node meanings false false fuel s
      flowEntries meanings fuel false (.nothing :: k :: acc) s

/-- A value in braces, and the entries behind it. -/
def flowValue (meanings : List Tag) : Nat → List Node → Place → Option (Node × Place)
  | 0, _, _ => none
  | fuel + 1, acc, s =>
    match s.tokens with
    | .value :: rest => do
      let (v, s) ← part meanings false (endsFlowValue rest) fuel { s with tokens := rest }
      flowEntries meanings fuel false (v :: acc) s
    | _ => flowEntries meanings fuel false (.nothing :: acc) s

/-- The items of a sequence in square brackets, the last one first. -/
def flowItems (meanings : List Tag) : Nat → Bool → List Node → Place → Option (Node × Place)
  | 0, _, _, _ => none
  | fuel + 1, isFirst, acc, s =>
    match s.tokens, isFirst with
    | .flowSequenceEnd :: rest, _ => some (.sequence acc.reverse, { s with tokens := rest })
    | .flowEntry :: rest, false => flowItem meanings fuel acc { s with tokens := rest }
    | _, false => none
    | _, true => flowItem meanings fuel acc s

/-- An item in square brackets, which may be a pair of a marked key and its value, and the items
behind it.  A marked key that is left out takes the token behind it along. -/
def flowItem (meanings : List Tag) : Nat → List Node → Place → Option (Node × Place)
  | 0, _, _ => none
  | fuel + 1, acc, s =>
    match s.tokens with
    | .flowSequenceEnd :: _ => flowItems meanings fuel false acc s
    | .key :: rest => do
      let isLeftOut := endsPairValue rest || rest.head? == some .value
      let (k, s) ← part meanings false isLeftOut fuel
        { s with tokens := if isLeftOut then rest.drop 1 else rest }
      let (v, s) ← match s.tokens with
        | .value :: rest =>
          part meanings false (endsPairValue rest) fuel { s with tokens := rest }
        | _ => some (.nothing, s)
      flowItems meanings fuel false ((← Node.ofEntries [k, v]) :: acc) s
    | _ => do
      let (n, s) ← node meanings false false fuel s
      flowItems meanings fuel false (n :: acc) s

end

/-! ## Documents -/

/-- The meanings of handles that directives give, and the tokens behind them.  Each directive does
away with what those before it said, and the version may be given only once. -/
def directives : List Tag → Bool → List Token → Option (List Tag × List Token)
  | _, false, .version :: rest => directives [] true rest
  | _, true, .version :: _ => none
  | _, seen, .meaning tag :: rest => directives [tag] seen rest
  | meanings, _, rest => some (meanings, rest)

/-- Does the document end before these tokens, without a node? -/
def endsDocument : List Token → Bool
  | [] => true
  | .version :: _ => true
  | .meaning _ :: _ => true
  | .documentStart :: _ => true
  | .documentEnd :: _ => true
  | _ => false

/-- The root of a document and the tokens behind it.  Directives ask for a mark of its start. -/
def root (ts : List Token) : Option (Node × List Token) := do
  let (meanings, rest) ← directives [] false ts
  let read (rest : List Token) : Option (Node × List Token) :=
    (node meanings true false (4 * rest.length + 4) ⟨rest, {}⟩).map fun (n, s) => (n, s.tokens)
  match rest with
  | .documentStart :: rest => if endsDocument rest then some (.nothing, rest) else read rest
  | _ => if endsDocument ts then none else read rest

/-- The tokens behind marks of the end of a document. -/
def behindEnds (ts : List Token) : List Token := ts.dropWhile (· == .documentEnd)

/-- The data of the document that a text holds; without a document it is an empty table. -/
def read (s : String) : Option Data := do
  let ts := behindEnds (← tokens s)
  if ts.isEmpty then return .table []
  let (n, rest) ← root ts
  if (behindEnds rest).isEmpty then n.toData else none

end AlarmMonitor.Settings.Yaml
