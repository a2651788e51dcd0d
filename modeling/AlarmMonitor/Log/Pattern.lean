/-!
# Patterns of field values

A directive may compare a field with a regular expression.  No line of this program carries such
a field, so a pattern never matches anything; but a text that is no pattern spoils the filter.
Here a text is checked for being one.  Closing braces and commas cannot stand in it.
-/

set_option autoImplicit false

namespace AlarmMonitor.Log

namespace Pattern

/-- The value of a hexadecimal digit of either case. -/
def hexValue? (c : Char) : Option Nat :=
  if c.isDigit then some (c.toNat - '0'.toNat)
  else if 'a' ≤ c ∧ c ≤ 'f' then some (c.toNat - 'a'.toNat + 10)
  else if 'A' ≤ c ∧ c ≤ 'F' then some (c.toNat - 'A'.toNat + 10)
  else none

/-- The character with a code point of so many hexadecimal digits, and what follows it. -/
def hexChar (digits : Nat) (cs : List Char) : Option (Char × List Char) := do
  let values ← (cs.take digits).mapM hexValue?
  let n := values.foldl (fun n d => n * 16 + d) 0
  if values.length = digits ∧ n.isValidChar then some (Char.ofNat n, cs.drop digits) else none

/-- What an escape stands for. -/
inductive Escape where
  | literal (c : Char)
  /-- A class such as that of the digits. -/
  | category
  /-- The beginning or the end of the text. -/
  | border

/-- The characters that an escape can take their special meaning from. -/
def isPunctuation (c : Char) : Bool :=
  c.toNat < 0x80 && !c.isAlphanum && c != '<' && c != '>'

/-- The escape behind a backslash, and what follows it. -/
def escape : List Char → Option (Escape × List Char)
  | [] => none
  | c :: cs =>
    if isPunctuation c then some (.literal c, cs)
    else match c with
      | 'x' => (hexChar 2 cs).map fun (c, rest) => (.literal c, rest)
      | 'u' => (hexChar 4 cs).map fun (c, rest) => (.literal c, rest)
      | 'U' => (hexChar 8 cs).map fun (c, rest) => (.literal c, rest)
      | 'p' | 'P' =>
        match cs with
        | k :: rest => if "LMNPSZC".toList.contains k.toUpper then some (.category, rest) else none
        | [] => none
      | 'A' | 'z' => some (.border, cs)
      | 'a' => some (.literal '\x07', cs)
      | 'f' => some (.literal '\x0c', cs)
      | 't' => some (.literal '\t', cs)
      | 'n' => some (.literal '\n', cs)
      | 'r' => some (.literal '\r', cs)
      | 'v' => some (.literal '\x0b', cs)
      | _ => if "dswDSW".toList.contains c then some (.category, cs) else none

/-- One member of a class: the character it stands for, if it is a single one. -/
def member : List Char → Option (Option Char × List Char)
  | [] => none
  | '\\' :: cs =>
    match escape cs with
    | some (.literal c, rest) => some (some c, rest)
    | some (.category, rest) => some (none, rest)
    | _ => none
  | c :: cs => some (some c, cs)

/-- What follows a member of a class or a range of members; the ends of a range are single
characters in ascending order. -/
def memberOrRange (cs : List Char) : Option (List Char) := do
  let (low, rest) ← member cs
  match rest with
  | '-' :: ']' :: _ => return rest
  | '-' :: '-' :: _ => return rest
  | '-' :: more =>
    let (high, rest) ← member more
    match low, high with
    | some a, some b => if a ≤ b then return rest else none
    | _, _ => none
  | _ => return rest

/-- What follows the marks at the front of a class, which stand for themselves there. -/
def classFront (cs : List Char) : List Char :=
  let cs := match cs with
    | '^' :: rest => rest
    | _ => cs
  let behind := cs.dropWhile (· == '-')
  match behind with
  | ']' :: rest => if behind.length = cs.length then rest else behind
  | _ => behind

/-- What follows a class behind its opening brackets, of which so many are open.  The fuel is more
than the length of the text. -/
def charClass : Nat → Nat → List Char → Option (List Char)
  | 0, _, _ => none
  | fuel + 1, opened, cs =>
    match opened, cs with
    | 0, _ => some cs
    | _, [] => none
    | n + 1, ']' :: rest => charClass fuel n rest
    | n, '[' :: rest => charClass fuel (n + 1) (classFront rest)
    | n, '&' :: '&' :: rest => charClass fuel n rest
    | n, '-' :: '-' :: rest => charClass fuel n rest
    | n, '~' :: '~' :: rest => charClass fuel n rest
    | n, cs => (memberOrRange cs).bind (charClass fuel n)

/-- Is this a list of flags, each at most once, of which those behind a minus sign are taken
away? -/
def areFlags (flags : List Char) : Bool :=
  let letters := flags.filter (· != '-')
  letters.all ("imsUuRx".toList.contains ·) && letters.eraseDups.length == letters.length &&
    (flags.filter (· == '-')).length ≤ 1 && flags.getLast? != some '-'

/-- Is this the name of a group? -/
def isGroupName : List Char → Bool
  | [] => false
  | c :: cs =>
    (c.isAlpha || c == '_') && cs.all fun c => c.isAlphanum || ['_', '.', '[', ']'].contains c

/-- The text in front of a character, and what follows it. -/
def upTo (d : Char) (cs : List Char) : Option (List Char × List Char) :=
  match cs.dropWhile (· != d) with
  | _ :: rest => some (cs.takeWhile (· != d), rest)
  | [] => none

/-- What follows the head of a group, behind its opening parenthesis; the flag says whether a
group was opened, as opposed to flags being set. -/
def groupHead (cs : List Char) : Option (Bool × List Char) :=
  match cs with
  | '?' :: 'P' :: '<' :: rest => named rest
  | '?' :: '<' :: rest => named rest
  | '?' :: rest =>
    let flags := rest.takeWhile fun c => c.isAlpha || c == '-'
    if !areFlags flags then none
    else match rest.dropWhile fun c => c.isAlpha || c == '-' with
      | ':' :: rest => some (true, rest)
      | ')' :: rest => if flags.isEmpty then none else some (false, rest)
      | _ => none
  | _ => some (true, cs)
where
  /-- A group with a name. -/
  named (cs : List Char) : Option (Bool × List Char) := do
    let (name, rest) ← upTo '>' cs
    if isGroupName name then some (true, rest) else none

/-- Is the rest of a text a pattern, with so many groups open, behind something that can be
repeated or not?  The fuel is more than the length of the text. -/
def isRest : Nat → Nat → Bool → List Char → Bool
  | 0, _, _, _ => false
  | fuel + 1, groups, repeatable, cs =>
    match cs with
    | [] => groups == 0
    | '(' :: rest =>
      match groupHead rest with
      | some (true, rest) => isRest fuel (groups + 1) false rest
      | some (false, rest) => isRest fuel groups false rest
      | none => false
    | ')' :: rest => groups != 0 && isRest fuel (groups - 1) true rest
    | '|' :: rest => isRest fuel groups false rest
    | '[' :: rest =>
      match charClass (2 * rest.length + 2) 1 (classFront rest) with
      | some rest => isRest fuel groups true rest
      | none => false
    | '*' :: rest => repeatable && isRest fuel groups true (dropLazy rest)
    | '+' :: rest => repeatable && isRest fuel groups true (dropLazy rest)
    | '?' :: rest => repeatable && isRest fuel groups true (dropLazy rest)
    | '\x7b' :: _ => false
    | '\\' :: rest =>
      match escape rest with
      | some (_, rest) => isRest fuel groups true rest
      | none => false
    | _ :: rest => isRest fuel groups true rest
where
  /-- What follows the mark of a repetition that prefers less. -/
  dropLazy : List Char → List Char
    | '?' :: rest => rest
    | cs => cs

end Pattern

/-- Is the text a pattern? -/
def isPattern (cs : List Char) : Bool := Pattern.isRest (cs.length + 1) 0 false cs

end AlarmMonitor.Log
