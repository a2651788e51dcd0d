/-!
# Bytes of a text

The encoding of a text, and a decoding that accepts all bytes: what is no encoded character
becomes a replacement character, one for each longest part that could have begun a character.
-/

set_option autoImplicit false

namespace AlarmMonitor.Text

/-- The encoding of a text. -/
def encode (s : String) : List UInt8 := s.toList.flatMap String.utf8EncodeChar

/-- What a decoding shows in place of bytes that are no character. -/
def replacement : Char := '\ufffd'

/-- What a first byte asks for: the number of bytes that must follow, the range of the one right
behind it, and its own share of the code point. -/
def lead (b : Nat) : Option (Nat × Nat × Nat × Nat) :=
  if b < 0x80 then some (0, 0, 0, b)
  else if b < 0xC2 then none
  else if b < 0xE0 then some (1, 0x80, 0xBF, b - 0xC0)
  else if b = 0xE0 then some (2, 0xA0, 0xBF, 0)
  else if b = 0xED then some (2, 0x80, 0x9F, 0xD)
  else if b < 0xF0 then some (2, 0x80, 0xBF, b - 0xE0)
  else if b = 0xF0 then some (3, 0x90, 0xBF, 0)
  else if b < 0xF4 then some (3, 0x80, 0xBF, b - 0xF0)
  else if b = 0xF4 then some (3, 0x80, 0x8F, 4)
  else none

/-- A character of which some bytes are still missing: their number, the range of the next one,
and the code point so far. -/
structure Partial where
  missing : Nat
  low : Nat
  high : Nat
  point : Nat

/-- The state of a decoding: an unfinished character and the characters so far, the last one
first. -/
structure Decoding where
  open? : Option Partial
  chars : List Char

/-- A byte where a character begins. -/
def beginChar (chars : List Char) (b : Nat) : Decoding :=
  match lead b with
  | none => ⟨none, replacement :: chars⟩
  | some (0, _, _, point) => ⟨none, Char.ofNat point :: chars⟩
  | some (missing, low, high, point) => ⟨some ⟨missing, low, high, point⟩, chars⟩

/-- Decodes one byte. -/
def decodeByte (d : Decoding) (byte : UInt8) : Decoding :=
  let b := byte.toNat
  match d.open? with
  | none => beginChar d.chars b
  | some p =>
    if p.low ≤ b ∧ b ≤ p.high then
      let point := p.point * 64 + (b - 0x80)
      if p.missing ≤ 1 then ⟨none, Char.ofNat point :: d.chars⟩
      else ⟨some ⟨p.missing - 1, 0x80, 0xBF, point⟩, d.chars⟩
    else beginChar (replacement :: d.chars) b

/-- The text of any bytes. -/
def decode (bytes : List UInt8) : String :=
  let d := bytes.foldl decodeByte ⟨none, []⟩
  String.ofList (if d.open?.isSome then replacement :: d.chars else d.chars).reverse

end AlarmMonitor.Text
