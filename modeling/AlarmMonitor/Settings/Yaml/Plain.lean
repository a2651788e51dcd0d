import AlarmMonitor.Settings.Yaml.Cursor

/-!
# Plain scalars of YAML

A text without quotes goes on up to a colon that a word ends behind, a comment, or a line with less
indentation; within brackets also up to a mark of them.  Space around a line end counts as the line
end alone.
-/

set_option autoImplicit false

namespace AlarmMonitor.Settings.Yaml

/-- Does a plain scalar end before this character, which is not blank, and this rest? -/
def stopsPlain (flow : Bool) (c : Char) (rest : List Char) : Bool :=
  (c == ':' && (endsWord rest.head? || (flow && rest.head?.any isFlowMark))) ||
    (flow && isFlowMark c)

/-- The word of a plain scalar at the front of a text. -/
def plainWord (flow : Bool) : List Char → List Char
  | [] => []
  | c :: rest =>
    if isBlank c || isBreak c || stopsPlain flow c rest then [] else c :: plainWord flow rest

/-- The space between two words of a plain scalar: what it stands for, and the place behind it.
A tab before the column `least` must have nothing but a comment behind it, whose line end does not
count.  The fuel is more than the length of the rest. -/
def plainGap (least : Int) : Nat → List Char → Nat → Cursor → Option (List Char × Cursor)
  | 0, _, _, _ => none
  | fuel + 1, blanks, breaks, c =>
    match c.next with
    | none => some (if breaks = 0 then blanks.reverse else folded breaks, c)
    | some d =>
      if isBreak d then plainGap least fuel blanks (breaks + 1) c.passBreak
      else if !isBlank d then some (if breaks = 0 then blanks.reverse else folded breaks, c)
      else if breaks = 0 then plainGap least fuel (d :: blanks) 0 c.passBlank
      else if d == '\t' && (c.column : Int) < least then do
        let after ← c.behindSpace
        if !endsLine after.next then none
        else plainGap least fuel blanks breaks (if after.leading then after else after.passBreak)
      else plainGap least fuel blanks breaks c.passBlank

/-- The words of a plain scalar with what is between them, the last one first, and the place behind
the space that follows it.  `gap` is what the space before the next word stands for.  The fuel is
greater by two than the length of the rest. -/
def plainWords (flow : Bool) (least : Int) :
    Nat → List (List Char) → List Char → Cursor → Option (List (List Char) × Cursor)
  | 0, _, _, _ => none
  | fuel + 1, acc, gap, c =>
    if (c.column == 0 && atAnyLimit c.rest) || c.next == some '#' then some (acc, c)
    else if flow && c.next == some '-' && c.second.any isFlowMark then none
    else
      let word := plainWord flow c.rest
      let acc := if word.isEmpty then acc else word :: gap :: acc
      let c := c.pass word.length
      if !c.next.any fun d => isBlank d || isBreak d then some (acc, c)
      else do
        let (gap, c) ← plainGap least fuel [] 0 c
        if !flow && (c.column : Int) < least then some (acc, c)
        else plainWords flow least fuel acc gap c

/-- A plain scalar whose lines begin at least at a column, and the place behind it. -/
def plainScalar (flow : Bool) (least : Int) (c : Cursor) : Option (String × Cursor) :=
  if flow && (c.column : Int) < least then none
  else
    (plainWords flow least (c.rest.length + 2) [] [] c).map fun (parts, c) =>
      (String.ofList (together parts), c)

end AlarmMonitor.Settings.Yaml
