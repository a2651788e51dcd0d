import AlarmMonitor.Json.Reader
import AlarmMonitor.Proofs.Json.Value
import AlarmMonitor.Proofs.Number.Numeral
import Mathlib.Data.List.Chain

/-!
# Documents

A document is a body as its writer sees it: members in the order in which they are written, strings
with their escapes and numbers with their digits.  What layout stands between the lexemes is left
to the text.

* `Document`, with `lexemes`, the row in which it is written;
* `Laid`: a text that writes a row of lexemes, with layout anywhere between them;
* `Document.value?`: the value that a document denotes, if it is not too deep and all its strings
  and numbers denote something.
-/

set_option autoImplicit false

namespace AlarmMonitor.Json

open AlarmMonitor.Number (Numeral)

/-! ## Strings -/

/-- A hexadecimal digit of either case. -/
abbrev HexDigit := { c : Char // (Lexer.hexValue c).isSome }

/-- The value of a hexadecimal digit. -/
def HexDigit.value (d : HexDigit) : Nat := (Lexer.hexValue d.1).get d.2

/-- A part of a string literal. -/
inductive Piece where
  /-- A character that stands for itself. -/
  | plain (c : Char) (free : c ≠ '"' ∧ c ≠ '\\' ∧ 0x20 ≤ c.toNat)
  /-- A backslash and the letter of a character. -/
  | short (letter c : Char) (escape : Lexer.shortEscape letter = some c)
  /-- A code unit in four digits. -/
  | unit (a b c d : HexDigit)

namespace Piece

/-- A part of a string literal as it is written. -/
def text : Piece → List Char
  | plain c _ => [c]
  | short letter _ _ => ['\\', letter]
  | unit a b c d => ['\\', 'u', a.1, b.1, c.1, d.1]

/-- Adds what the part denotes to the content before it. -/
def addTo (t : Lexer.Content) : Piece → Lexer.Content
  | plain c _ => t.push c
  | short _ c _ => t.push c
  | unit a b c d => t.pushUnit (((a.value * 16 + b.value) * 16 + c.value) * 16 + d.value)

end Piece

/-- A string literal, part by part. -/
abbrev Quotation := List Piece

namespace Quotation

/-- A string literal as it is written. -/
def text (q : Quotation) : List Char := '"' :: (q.flatMap Piece.text ++ ['"'])

/-- What the literal denotes is gathered part by part. -/
def content (q : Quotation) : Lexer.Content := q.foldl Piece.addTo .empty

/-- The text that a literal denotes; none if a surrogate in it stands alone. -/
def meaning (q : Quotation) : Option String :=
  if q.content.valid && q.content.lead.isNone then some (String.ofList q.content.chars.reverse)
  else none

end Quotation

/-! ## Lexemes -/

/-- What a body consists of, layout apart. -/
inductive Lexeme where
  | openArray
  | closeArray
  | openObject
  | closeObject
  | comma
  | colon
  | null
  | bool (b : Bool)
  | number (n : Numeral)
  | string (q : Quotation)

namespace Lexeme

/-- What a lexeme denotes. -/
def token : Lexeme → Token
  | openArray => .openArray
  | closeArray => .closeArray
  | openObject => .openObject
  | closeObject => .closeObject
  | comma => .comma
  | colon => .colon
  | null => .null
  | bool b => .bool b
  | number n => .number (Json.Number.ofLiteral n.literal)
  | string q => .string q.meaning

/-- A lexeme as it is written. -/
def text : Lexeme → List Char
  | number n => n.text
  | string q => q.text
  | l => l.token.text

/-- Is this a sign that stands between values? -/
def isMark : Lexeme → Bool
  | null | bool _ | number _ | string _ => false
  | _ => true

/-- Do lexemes follow each other as in a body, with a mark between any two others? -/
def Parted : List Lexeme → Prop := List.IsChain fun a b => a.isMark ∨ b.isMark

end Lexeme

/-- Does the text consist of layout? -/
def IsLayout (cs : List Char) : Prop := ∀ c ∈ cs, Lexer.isLayout c = true

/-- A text that writes lexemes one after the other, with layout before, between and behind them. -/
inductive Laid : List Lexeme → List Char → Prop
  | nil {layout : List Char} (h : IsLayout layout) : Laid [] layout
  | cons {layout cs : List Char} {l : Lexeme} {ls : List Lexeme} (h : IsLayout layout)
      (rest : Laid ls cs) : Laid (l :: ls) (layout ++ (l.text ++ cs))

/-- A row of lexemes is written with any layout before each of them. -/
theorem laid_flatMap {layout : Lexeme → List Char} (h : ∀ l, IsLayout (layout l))
    (ls : List Lexeme) : Laid ls (ls.flatMap fun l => layout l ++ l.text) := by
  induction ls with
  | nil => exact .nil (by simp [IsLayout])
  | cons l ls ih =>
      rw [List.flatMap_cons, List.append_assoc]
      exact .cons (h l) ih

/-- Lexemes may follow each other without layout. -/
theorem laid_compact (ls : List Lexeme) : Laid ls (ls.flatMap Lexeme.text) := by
  have hnone : ∀ _ : Lexeme, IsLayout [] := fun _ => by simp [IsLayout]
  exact laid_flatMap hnone ls

/-! ## Documents -/

/-- A body as its writer sees it. -/
inductive Document where
  | null
  | bool (b : Bool)
  | number (n : Numeral)
  | string (q : Quotation)
  | array (items : List Document)
  | object (members : List (Quotation × Document))

namespace Document

/-- What holds of a document if it holds of its parts holds of every document. -/
@[induction_eliminator]
theorem induct {motive : Document → Prop} (null : motive .null) (bool : ∀ b, motive (.bool b))
    (number : ∀ n, motive (.number n)) (string : ∀ q, motive (.string q))
    (array : ∀ items, (∀ d ∈ items, motive d) → motive (.array items))
    (object : ∀ members, (∀ m ∈ members, motive m.2) → motive (.object members)) (d : Document) :
    motive d := by
  refine @Document.rec motive (fun items => ∀ d ∈ items, motive d)
    (fun members => ∀ m ∈ members, motive m.2) (fun m => motive m.2) null bool number string array
    object ?_ ?_ ?_ ?_ ?_ d
  · simp
  · intro d items hd hitems
    exact List.forall_mem_cons.mpr ⟨hd, hitems⟩
  · simp
  · intro m members hm hmembers
    exact List.forall_mem_cons.mpr ⟨hm, hmembers⟩
  · intro name d hd
    exact hd

mutual

/-- The lexemes of a document. -/
def lexemes : Document → List Lexeme
  | .null => [.null]
  | .bool b => [.bool b]
  | .number n => [.number n]
  | .string q => [.string q]
  | .array items => .openArray :: (itemLexemes items ++ [.closeArray])
  | .object members => .openObject :: (memberLexemes members ++ [.closeObject])

/-- The lexemes of the items of an array, with commas between them. -/
def itemLexemes : List Document → List Lexeme
  | [] => []
  | [d] => d.lexemes
  | d :: rest => d.lexemes ++ .comma :: itemLexemes rest

/-- The lexemes of the members of an object, with commas between them. -/
def memberLexemes : List (Quotation × Document) → List Lexeme
  | [] => []
  | [(name, d)] => .string name :: .colon :: d.lexemes
  | (name, d) :: rest => .string name :: .colon :: (d.lexemes ++ .comma :: memberLexemes rest)

end

/-- Is this a text of the document? -/
def WrittenAs (d : Document) (body : String) : Prop := Laid d.lexemes body.toList

mutual

/-- The value that a document denotes if no more than `room` arrays and objects may stand inside
each other; none if there are more, or if a part of it denotes nothing. -/
def value? (room : Nat) : Document → Option Value
  | .null => some .null
  | .bool b => some (.bool b)
  | .number n => (Json.Number.ofLiteral n.literal).map .number
  | .string q => q.meaning.map .string
  | .array items =>
    match room with
    | 0 => none
    | room + 1 => (itemValues? room items).map .array
  | .object members =>
    match room with
    | 0 => none
    | room + 1 => (memberValues? room members).map fun ms => .object (Value.ofMembers ms)

/-- The values of items. -/
def itemValues? (room : Nat) : List Document → Option (List Value)
  | [] => some []
  | d :: rest => do
    let v ← d.value? room
    let vs ← itemValues? room rest
    return v :: vs

/-- The names and values of members, as they are written. -/
def memberValues? (room : Nat) : List (Quotation × Document) → Option (List (String × Value))
  | [] => some []
  | (name, d) :: rest => do
    let s ← name.meaning
    let v ← d.value? room
    let ms ← memberValues? room rest
    return (s, v) :: ms

end

/-- What a member denotes. -/
def memberValue? (room : Nat) (m : Quotation × Document) : Option (String × Value) := do
  let s ← m.1.meaning
  let v ← m.2.value? room
  return (s, v)

theorem itemValues?_eq_mapM (room : Nat) (items : List Document) :
    itemValues? room items = items.mapM (value? room) := by
  induction items with
  | nil => rfl
  | cons d rest ih => simp [itemValues?, ih]

theorem memberValues?_eq_mapM (room : Nat) (members : List (Quotation × Document)) :
    memberValues? room members = members.mapM (memberValue? room) := by
  induction members with
  | nil => rfl
  | cons m rest ih =>
      obtain ⟨name, d⟩ := m
      simp [memberValues?, memberValue?, ih, Option.bind_assoc]

end Document

end AlarmMonitor.Json
