import AlarmMonitor.Text.Split
import AlarmMonitor.Text.Word

/-!
# Space and names of RON

Between two tokens there may be pattern white space and comments; comments between marks may stand
inside each other.  A name follows the Unicode rules for identifiers.  Behind `r#` it is raw: it may
begin with any character that a name goes on with, and may hold points and signs.
-/

set_option autoImplicit false

namespace AlarmMonitor.Settings.Ron

/-! ## Space -/

/-- The characters with the property `Pattern_White_Space`. -/
def spaces : List Char :=
  ['\t', '\n', '\x0b', '\x0c', '\r', ' ', '\x85', '\u200e', '\u200f', '\u2028', '\u2029']

/-- Is the character space between two tokens? -/
def isSpace (c : Char) : Bool := spaces.contains c

/-- What follows the end of a block comment that is inside `depth` others. -/
def afterBlock : Nat → List Char → Option (List Char)
  | depth, '/' :: '*' :: rest => afterBlock (depth + 1) rest
  | 0, '*' :: '/' :: rest => some rest
  | depth + 1, '*' :: '/' :: rest => afterBlock depth rest
  | depth, _ :: rest => afterBlock depth rest
  | _, [] => none

/-- What follows space and comments; nothing, if a comment does not end.  The fuel is more than
the length of the text. -/
def skip : Nat → List Char → Option (List Char)
  | 0, cs => some cs
  | fuel + 1, cs =>
    match cs.dropWhile isSpace with
    | '/' :: '/' :: rest => skip fuel (rest.dropWhile (· != '\n'))
    | '/' :: '*' :: rest => do skip fuel (← afterBlock 0 rest)
    | rest => some rest

/-- What follows space and comments. -/
def skipAll (cs : List Char) : Option (List Char) := skip (cs.length + 1) cs

/-! ## Names -/

/-- May a raw name hold the character? -/
def isRawPart (c : Char) : Bool := Text.isNamePart c || c == '.' || c == '+' || c == '-'

/-- What follows a word, if the word stands at the front of a text and does not go on. -/
def word (w : String) (cs : List Char) : Option (List Char) :=
  (Text.behind w.toList cs).filter fun rest => !rest.head?.any Text.isNamePart

/-- Does a text between quotes that have letters before them stand here? -/
def beginsMarkedQuote (cs : List Char) : Bool :=
  ["b\"", "b'", "br\"", "br#\"", "r\"", "r#\"", "r##"].any fun mark =>
    (Text.behind mark.toList cs).isSome

/-- The name at the front of a text, and what follows it.  A name that is not raw must not touch
a point or a sign. -/
def name (cs : List Char) : Option (List Char × List Char) :=
  if !cs.head?.any (fun c => Text.isNameStart c || c == '_') || beginsMarkedQuote cs then none
  else match cs with
    | 'r' :: '#' :: raw =>
      if raw.head?.any isRawPart then some (raw.takeWhile isRawPart, raw.dropWhile isRawPart)
      else none
    | _ =>
      let rest := cs.dropWhile Text.isNamePart
      if rest.head?.any isRawPart then none else some (cs.takeWhile Text.isNamePart, rest)

end AlarmMonitor.Settings.Ron
