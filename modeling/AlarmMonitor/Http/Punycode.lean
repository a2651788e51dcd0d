import AlarmMonitor.Text.Split

/-!
# Punycode

A label with characters outside ASCII is written in ASCII: its ASCII characters first, then, for
each other character in the order of code points, how many steps to take through the places and
code points that come before it.  A number of steps is written in digits whose weights adapt to
the numbers before it.
-/

set_option autoImplicit false

namespace AlarmMonitor.Http.Punycode

/-- The character of a digit below 36. -/
def digit (n : Nat) : Char := if n < 26 then Char.ofNat (0x61 + n) else Char.ofNat (0x16 + n)

/-- The value of a digit of either case. -/
def digitValue (c : Char) : Option Nat :=
  if 'a' ≤ c ∧ c ≤ 'z' then some (c.toNat - 0x61)
  else if 'A' ≤ c ∧ c ≤ 'Z' then some (c.toNat - 0x41)
  else if '0' ≤ c ∧ c ≤ '9' then some (c.toNat - 0x16)
  else none

theorem digitValue_digit {n : Nat} (h : n < 36) : digitValue (digit n) = some n := by
  have all : ∀ m ∈ List.range 36, digitValue (digit m) = some m := by decide
  exact all n (List.mem_range.mpr h)

/-- A digit at a place ends its number if it is below the threshold of the place. -/
def threshold (place bias : Nat) : Nat := min 26 (max 1 (place - bias))

theorem threshold_pos (place bias : Nat) : 0 < threshold place bias := by
  simp only [threshold]; omega

theorem threshold_lt (place bias : Nat) : threshold place bias < 36 := by
  simp only [threshold]; omega

/-- The bias of a difference after scaling, with the places that scaling took. -/
def settle (delta places : Nat) : Nat :=
  if 455 < delta then settle (delta / 35) (places + 36) else places + 36 * delta / (delta + 38)
termination_by delta
decreasing_by exact Nat.div_lt_self (by omega) (by omega)

/-- The bias after a number of steps, for a text that then has so many characters. -/
def adapt (steps size : Nat) (first : Bool) : Nat :=
  let delta := if first then steps / 700 else steps / 2
  settle (delta + delta / size) 0

/-- The digits of a number of steps, from a place on. -/
def digits (bias place steps : Nat) : List Char :=
  if h : steps < threshold place bias then [digit steps]
  else
    digit (threshold place bias + (steps - threshold place bias) % (36 - threshold place bias)) ::
      digits bias (place + 36) ((steps - threshold place bias) / (36 - threshold place bias))
termination_by steps
decreasing_by
  have hp := threshold_pos place bias
  have hd : (steps - threshold place bias) / (36 - threshold place bias) ≤
      steps - threshold place bias := Nat.div_le_self ..
  omega

/-! ## Writing -/

/-- A text half written: the steps since the last written character, the bias, the number of
characters written, and the digits. -/
structure Writing where
  steps : Nat
  bias : Nat
  written : Nat
  text : List Char

/-- Passes one place on the way through the text for one code point. -/
def pass (basic : Nat) (point : Nat) (w : Writing) (c : Char) : Writing :=
  if c.toNat < point then { w with steps := w.steps + 1 }
  else if c.toNat = point then
    ⟨0, adapt w.steps (w.written + 1) (w.written == basic), w.written + 1,
      w.text ++ digits w.bias 36 w.steps⟩
  else w

/-- Writes the places of a code point, the one before it given. -/
def sweep (cs : List Char) (basic : Nat) : Nat → List Nat → Writing → Writing
  | _, [], w => w
  | start, point :: points, w =>
    let skipped := { w with steps := w.steps + (point - start) * (w.written + 1) }
    let after := cs.foldl (pass basic point) skipped
    sweep cs basic (point + 1) points { after with steps := after.steps + 1 }

/-- Puts a number in its place in an ascending list without repetition. -/
def insertPoint (n : Nat) : List Nat → List Nat
  | [] => [n]
  | m :: ms => if n < m then n :: m :: ms else if n = m then m :: ms else m :: insertPoint n ms

/-- Writes a label in ASCII. -/
def encode (cs : List Char) : List Char :=
  let basic := cs.filter (·.toNat < 0x80)
  let points := (cs.filter (0x80 ≤ ·.toNat)).foldr (fun c => insertPoint c.toNat) []
  let front := if basic.isEmpty then [] else basic ++ ['-']
  front ++ (sweep cs basic.length 0x80 points ⟨0, 72, basic.length, []⟩).text

/-! ## Reading -/

/-- A text half read: the characters so far, the code point and place reached, the bias, and of
the number under way where it began, the weight of its next digit and that digit's place. -/
structure Reading where
  text : List Char
  point : Nat
  reached : Nat
  bias : Nat
  began : Nat
  weight : Nat
  place : Nat

/-- The largest number of steps that is read. -/
def limit : Nat := 4294967296

/-- Reads one digit. -/
def readDigit (r : Reading) (c : Char) : Option Reading := do
  let d ← digitValue c
  let reached := r.reached + d * r.weight
  let t := threshold r.place r.bias
  if limit ≤ reached ∨ limit ≤ r.weight then none
  else if t ≤ d then
    some { r with reached := reached, weight := r.weight * (36 - t), place := r.place + 36 }
  else
    let size := r.text.length + 1
    let point := r.point + reached / size
    let index := reached % size
    let bias := adapt (reached - r.began) size (r.began == 0)
    if h : point.isValidChar then
      some ⟨r.text.take index ++ Char.ofNatAux point h :: r.text.drop index, point, index + 1,
        bias, index + 1, 1, 36⟩
    else none

/-- The ASCII characters of a written label, and its digits: they stand behind the last hyphen,
unless that is the first character. -/
def sections (cs : List Char) : List Char × List Char :=
  match Text.aroundLast '-' cs with
  | some (c :: basic, rest) => (c :: basic, rest)
  | _ => ([], cs)

/-- Reads a label written in ASCII. -/
def decode (cs : List Char) : Option (List Char) := do
  let (basic, rest) := sections cs
  let r ← rest.foldlM readDigit ⟨basic, 0x80, 0, 72, 0, 1, 36⟩
  if r.weight = 1 ∧ r.place = 36 then some r.text else none

end AlarmMonitor.Http.Punycode
