import AlarmMonitor.Json.Reader
import AlarmMonitor.Settings.Ini
import AlarmMonitor.Settings.Json5
import AlarmMonitor.Settings.Ron.Document
import AlarmMonitor.Settings.Toml.Document
import AlarmMonitor.Settings.Yaml.Document

/-!
# Formats of configuration files

The extension of a file's name tells its format.  Whatever the format, a configuration is a table.
-/

set_option autoImplicit false

namespace AlarmMonitor.Settings

/-- The formats that can be read. -/
inductive Format where
  | toml
  | json
  | yaml
  | ini
  | ron
  | json5
  deriving DecidableEq, Repr

namespace Format

/-- The known extensions with their formats, in the order in which they are tried. -/
def extensions : List (String × Format) :=
  [("toml", .toml), ("json", .json), ("yaml", .yaml), ("yml", .yaml), ("ini", .ini), ("ron", .ron),
    ("json5", .json5)]

/-- The format of an extension. -/
def ofExtension (extension : String) : Option Format :=
  (extensions.find? (·.1 = extension)).map (·.2)

end Format

/-- The number of a JSON text as data. -/
def ofJsonNumber : Json.Number → Data
  | .int i => .integer i
  | .double d => .real (.finite d)

mutual

/-- A JSON value as data. -/
def ofJson : Json.Value → Data
  | .null => .nothing
  | .bool b => .bool b
  | .number n => ofJsonNumber n
  | .string s => .text s
  | .array items => .array (ofJsonItems items)
  | .object members => .table (ofJsonMembers members)

def ofJsonItems : List Json.Value → List Data
  | [] => []
  | v :: rest => ofJson v :: ofJsonItems rest

def ofJsonMembers : List (String × Json.Value) → List (String × Data)
  | [] => []
  | (name, v) :: rest => (name, ofJson v) :: ofJsonMembers rest

end

/-- The members of a table. -/
def rootTable : Data → Option (List (String × Data))
  | .table members => some members
  | _ => none

namespace Format

/-- The members of the table that a text holds in a format. -/
def read (format : Format) (text : String) : Option (List (String × Data)) :=
  match format with
  | .toml => Toml.read text
  | .json => (Json.parse text).bind fun v => rootTable (ofJson v)
  | .yaml => (Yaml.read text).bind rootTable
  | .ini => Ini.read text
  | .ron => (Ron.read text).bind rootTable
  | .json5 => (Json5.read text).bind rootTable

end Format

end AlarmMonitor.Settings
