import AlarmMonitor.Http.Percent
import AlarmMonitor.Text.Split

/-!
# Paths of web addresses

A path is a list of segments, never empty.  A segment `.` is left out, and a segment `..` is left
out with the one before it; at the end either leaves an empty segment.
-/

set_option autoImplicit false

namespace AlarmMonitor.Http.Url

/-- Do both slashes separate segments? -/
def isSlash (c : Char) : Bool := c == '/' || c == '\\'

/-- Does a segment stand for the place where it is? -/
def isHere (segment : List Char) : Bool :=
  [".".toList, "%2e".toList].contains (segment.map Char.toLower)

/-- Does a segment stand for the place above? -/
def isAbove (segment : List Char) : Bool :=
  ["..".toList, ".%2e".toList, "%2e.".toList, "%2e%2e".toList].contains (segment.map Char.toLower)

/-- Is a segment the name of a drive?  The way up stops there. -/
def isDrive : List Char → Bool
  | [letter, mark] => letter.isAlpha && (mark == ':' || mark == '|')
  | _ => false

/-- The place above, segments the last one first. -/
def above : List (List Char) → List (List Char)
  | [] => []
  | segment :: place => if isDrive segment then segment :: place else place

/-- Follows segments from a place, the last one first. -/
def follow (place : List (List Char)) : List (List Char) → List (List Char)
  | [] => place
  | [last] =>
    if isAbove last then [] :: above place
    else if isHere last then [] :: place
    else last :: place
  | segment :: rest =>
    if isAbove segment then follow (above place) rest
    else if isHere segment then follow place rest
    else follow (segment :: place) rest

/-- The segments of a path, with or without a slash in front. -/
def readPath (cs : List Char) : List (List Char) :=
  let behind := match cs with
    | c :: rest => if isSlash c then rest else cs
    | [] => []
  let segments := (Text.splitBy isSlash behind).map (Percent.encode Percent.inPath)
  (follow [] segments).reverse

/-- A path as it stands in a URL. -/
def pathText (segments : List (List Char)) : List Char := segments.flatMap ('/' :: ·)

end AlarmMonitor.Http.Url
