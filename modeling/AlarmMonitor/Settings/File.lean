import AlarmMonitor.Settings.Format
import AlarmMonitor.Text.Split

/-!
# Finding the configuration file

A file is read in the format of its name's extension, and as TOML if the name has none.  If there
is no file of exactly that name, the known extensions are put behind it one after the other; a
name without an extension is only tried as TOML.
-/

set_option autoImplicit false

namespace AlarmMonitor.Settings

/-- The files at hand: their names and their texts. -/
abbrev Folder := List (String × String)

namespace File

/-- The parts of a name between slashes, the empty ones and those that stand for the folder
itself apart. -/
def parts (name : String) : List (List Char) :=
  (Text.splitBy (· == '/') name.toList).filter fun part => part ≠ [] ∧ part ≠ ['.']

/-- The name without needless parts. -/
def canonical (name : String) : String :=
  String.ofList (List.intercalate ['/'] (parts name))

/-- The extension of the last part of a name: what is behind its last dot, unless the dot is the
first character. -/
def extension (name : String) : Option String :=
  match (parts name).getLast? with
  | none => none
  | some ['.', '.'] => none
  | some part =>
    let tail := (part.reverse.takeWhile (· != '.')).reverse
    if tail.length + 1 < part.length then some (String.ofList tail) else none

/-- The text of a file, without a mark of the byte order at its front. -/
def content (folder : Folder) (name : String) : Option String :=
  (folder.find? (·.1 = name)).map fun (_, text) =>
    match text.toList with
    | '\ufeff' :: rest => String.ofList rest
    | _ => text

/-- A file that was found: its name, its format and its text. -/
structure Found where
  name : String
  format : Format
  text : String

/-- The file of exactly this name, in this format if it has one. -/
def exact (folder : Folder) (name : String) (format : Option Format) : Option Found := do
  return ⟨name, ← format, ← content folder name⟩

/-- The first file whose name is this one with an extension behind it. -/
def extended (folder : Folder) (name : String) (formats : List (String × Format)) : Option Found :=
  formats.findSome? fun (extension, format) =>
    exact folder (name ++ "." ++ extension) (some format)

/-- Can the path be the name of a file?  A path that ends with a slash, or with a part that stands
for a folder, names a folder. -/
def namesFile (path : String) : Bool :=
  let last := (Text.splitBy (· == '/') path.toList).getLast?.getD []
  !(([[], ['.'], ['.', '.']] : List (List Char)).contains last)

/-- Has the path a last part that an extension can be put behind?  A path from the root leads to
no file at hand. -/
def isExtensible (path : String) : Bool :=
  path.toList.head? != some '/' && !(([[], ['.', '.']] : List (List Char)).contains
    ((parts path).getLast?.getD []))

/-- Finds the file that a path names. -/
def find (folder : Folder) (path : String) : Option Found :=
  let name := canonical path
  let isThere := namesFile path && (content folder name).isSome
  if !isExtensible path then none
  else match extension name with
    | some e =>
      if isThere then exact folder name (Format.ofExtension e)
      else extended folder name Format.extensions
    | none =>
      if isThere then exact folder name (some .toml) else extended folder name [("toml", .toml)]

/-- The members of the table that the file of a path holds, and the file's name. -/
def read (folder : Folder) (path : String) : Option (String × List (String × Data)) := do
  let f ← find folder path
  return (f.name, ← f.format.read f.text)

end File

end AlarmMonitor.Settings
