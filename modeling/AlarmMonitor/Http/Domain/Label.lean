import AlarmMonitor.Http.Domain.Form
import AlarmMonitor.Http.Punycode
import AlarmMonitor.Text.Composition
import AlarmMonitor.Text.Direction
import AlarmMonitor.Text.Joining
import AlarmMonitor.Text.Printable

/-!
# Labels

A part of a name between dots, in plain form.  It begins with no mark, signs that govern how
characters are joined stand only where they have an effect, and, if anything in the name is written to
the left, every label goes in one direction.  A label that is not ASCII is written in Punycode behind
`xn--`, and a label that begins so must be readable as one of those.
-/

set_option autoImplicit false

namespace AlarmMonitor.Http.Domain

/-! ## Characters -/

/-- ASCII characters that no name holds. -/
def isForbidden (c : Char) : Bool :=
  c.toNat ≤ 0x20 || c.toNat == 0x7F ||
    ['%', '#', '/', ':', '<', '>', '?', '@', '[', '\\', ']', '^', '|'].contains c

/-- The sign that parts characters, and the sign that joins them. -/
def parter : Char := '\u200c'

def joiner : Char := '\u200d'

/-- Ranges of visible characters above ASCII that no name holds: signs that describe other signs,
and those that stand for a text with a forbidden character. -/
def unfitRanges : List (Nat × Nat) :=
  [(0xA8, 0xA8), (0xAF, 0xAF), (0xB4, 0xB4), (0xB8, 0xB8), (0x2D8, 0x2DD), (0x37A, 0x37A),
   (0x384, 0x385), (0x1FBD, 0x1FC1), (0x1FCD, 0x1FCF), (0x1FDD, 0x1FDF), (0x1FED, 0x1FEE),
   (0x1FFD, 0x1FFE), (0x2017, 0x2017), (0x2024, 0x2026), (0x203E, 0x203E), (0x2047, 0x2049),
   (0x2100, 0x2101), (0x2105, 0x2106), (0x2488, 0x249B), (0x2A74, 0x2A74), (0x2FF0, 0x2FFF),
   (0x309B, 0x309C), (0x31EF, 0x31EF), (0x33C2, 0x33D8), (0xFC5E, 0xFC63), (0xFDFA, 0xFDFB),
   (0xFE12, 0xFE19), (0xFE30, 0xFE30), (0xFE47, 0xFE72), (0xFE74, 0xFFFD), (0x1F100, 0x1F100)]

/-- May a plain character stand in a name? -/
def isFit (c : Char) : Bool :=
  if c.toNat < 0x80 then !isForbidden c
  else
    c == parter || c == joiner ||
      ((Text.isPrintable c || Text.isMark c) && !Text.inRanges c.toNat unfitRanges)

/-- Is every character in ASCII? -/
def isAscii (cs : List Char) : Bool := cs.all (·.toNat < 0x80)

/-! ## Joined characters -/

/-- May the sign that parts characters stand between these, the last one before it first?  It has
an effect behind a virama, and between two letters that would be joined. -/
def mayPart (before behind : List Char) : Bool :=
  before.head?.any Text.isVirama ||
    ((before.dropWhile Text.isTransparent).head?.any Text.joinsNext &&
      (behind.dropWhile Text.isTransparent).head?.any Text.joinsPrevious)

/-- Do the signs in a text have an effect?  The characters before it are given, the last one first.
The sign that joins characters has one behind a virama. -/
def hasUsefulSigns (before : List Char) : List Char → Bool
  | [] => true
  | c :: rest =>
    (c != parter || mayPart before rest) && (c != joiner || before.head?.any Text.isVirama) &&
      hasUsefulSigns (c :: before) rest

/-- May a label above ASCII be used? -/
def isFitLabel (cs : List Char) : Bool :=
  cs.all isFit && !cs.head?.any Text.isMark && hasUsefulSigns [] cs

/-! ## Directions -/

/-- Is anything in a label written to the left, or a number of a script that is? -/
def isLeftward (cs : List Char) : Bool :=
  cs.any fun c => Text.direction c == .rightToLeft || Text.direction c == .arabicNumber

/-- The direction of the last character that is no mark. -/
def lastDirection (cs : List Char) : Option Text.Direction :=
  ((cs.map Text.direction).reverse.dropWhile (· == .mark)).head?

/-- Does a label go in one direction?  It begins with a letter of this direction and ends with one or
with a number, marks aside; and numbers of both kinds do not stand together. -/
def hasOneDirection (cs : List Char) : Bool :=
  let ds := cs.map Text.direction
  let last := lastDirection cs
  match ds with
  | [] => true
  | .leftToRight :: _ =>
    !isLeftward cs && (last == some .leftToRight || last == some .europeanNumber)
  | .rightToLeft :: _ =>
    !ds.contains .leftToRight &&
      !(ds.contains .europeanNumber && ds.contains .arabicNumber) &&
      (last == some .rightToLeft || last == some .europeanNumber || last == some .arabicNumber)
  | _ => false

/-! ## Forms in ASCII -/

/-- A label as it is read and as it is written. -/
structure Label where
  shown : List Char
  written : List Char

/-- What stands before a label in Punycode. -/
def mark : List Char := "xn--".toList

/-- The greatest length of a label that is put in Punycode, and of one that is read from it. -/
def longestShown : Nat := 1000

def longestWritten : Nat := 2000

/-- The label of plain characters. -/
def Label.ofPlain (cs : List Char) : Option Label :=
  match Text.behind mark cs with
  | some digits => do
    if !isAscii cs || longestWritten < digits.length then none
    let text ← Punycode.decode digits
    if isAscii text || !isFitLabel text || Text.composed (text.flatMap plain) != text then none
    else if (Text.behind mark text).isSome then none
    else return ⟨text, cs⟩
  | none =>
    if isAscii cs then some ⟨cs, cs⟩
    else if isFitLabel cs && cs.length ≤ longestShown then some ⟨cs, mark ++ Punycode.encode cs⟩
    else none

end AlarmMonitor.Http.Domain
