import AlarmMonitor.Text.Utf8

/-!
# Percent encoding

A byte that a part of a URL cannot hold is written as `%` and two hexadecimal digits.  Each part
of a URL has its own class of characters that are so written; all of them hold every character
outside ASCII.
-/

set_option autoImplicit false

namespace AlarmMonitor.Http.Percent

/-- The upper-case hexadecimal digit of a number below 16. -/
def digit (n : Nat) : Char := if n < 10 then Char.ofNat (0x30 + n) else Char.ofNat (0x37 + n)

/-- The value of a hexadecimal digit of either case. -/
def digitValue (c : Char) : Option Nat :=
  if '0' ≤ c ∧ c ≤ '9' then some (c.toNat - 0x30)
  else if 'a' ≤ c ∧ c ≤ 'f' then some (c.toNat - 0x57)
  else if 'A' ≤ c ∧ c ≤ 'F' then some (c.toNat - 0x37)
  else none

theorem digitValue_digit {n : Nat} (h : n < 16) : digitValue (digit n) = some n := by
  have all : ∀ m ∈ List.range 16, digitValue (digit m) = some m := by decide
  exact all n (List.mem_range.mpr h)

/-- A byte as `%` and two digits. -/
def encodeByte (b : UInt8) : List Char := ['%', digit (b.toNat / 16), digit (b.toNat % 16)]

/-- Writes a character, by its bytes if the class holds it. -/
def encodeChar (escaped : Char → Bool) (c : Char) : List Char :=
  if escaped c then (String.utf8EncodeChar c).flatMap encodeByte else [c]

/-- Writes a text, with the characters of a class by their bytes. -/
def encode (escaped : Char → Bool) (cs : List Char) : List Char := cs.flatMap (encodeChar escaped)

/-- A text without a character of the class is written as it is. -/
theorem encode_eq_self {escaped : Char → Bool} {cs : List Char}
    (h : ∀ c ∈ cs, escaped c = false) : encode escaped cs = cs := by
  induction cs with
  | nil => rfl
  | cons c cs ih =>
    have hc : escaped c = false := h c (List.mem_cons_self ..)
    have hcs : encode escaped cs = cs := ih fun d hd => h d (List.mem_cons_of_mem _ hd)
    rw [encode, List.flatMap_cons, encodeChar, hc, ← encode, hcs]
    rfl

/-- The bytes of a text in which `%` and two digits stand for a byte.  Any other `%` stands for
itself. -/
def decode : List Char → List UInt8
  | '%' :: a :: b :: cs =>
    match digitValue a, digitValue b with
    | some high, some low => UInt8.ofNat (high * 16 + low) :: decode cs
    | _, _ => 0x25 :: decode (a :: b :: cs)
  | c :: cs => String.utf8EncodeChar c ++ decode cs
  | [] => []

/-- The control characters of ASCII, and all outside ASCII. -/
def inControl (c : Char) : Bool := c.toNat < 0x20 || 0x7E < c.toNat

/-- What a fragment cannot hold. -/
def inFragment (c : Char) : Bool := inControl c || [' ', '\x22', '<', '>', '\x60'].contains c

/-- What a path cannot hold. -/
def inPath (c : Char) : Bool := inFragment c || ['#', '?', '\x7b', '\x7d'].contains c

/-- What the query of a web address cannot hold. -/
def inQuery (c : Char) : Bool := inControl c || [' ', '\x22', '#', '<', '>', '\x27'].contains c

/-- What a user name or a password cannot hold. -/
def inUserinfo (c : Char) : Bool :=
  inPath c || ['/', ':', ';', '=', '@', '[', '\\', ']', '^', '|'].contains c

end AlarmMonitor.Http.Percent
