import AlarmMonitor.Text.Printable

/-!
# Quoted text

The form in which a text is shown inside a diagnostic: between double quotes, with a backslash
before quotes and backslashes, short escapes for the common control characters, and the code
point of every other character without a visible form.
-/

set_option autoImplicit false

namespace AlarmMonitor.Text

/-- The escaped form of one character. -/
def quoteChar (c : Char) : List Char :=
  if c = '"' then ['\\', '"']
  else if c = '\\' then ['\\', '\\']
  else if c = '\n' then ['\\', 'n']
  else if c = '\r' then ['\\', 'r']
  else if c = '\t' then ['\\', 't']
  else if c = '\x00' then ['\\', '0']
  else if isPrintable c then [c]
  else "\\u\x7b".toList ++ Nat.toDigits 16 c.toNat ++ ['\x7d']

/-- The text between quotes, with escapes. -/
def quoted (s : String) : String :=
  String.ofList ('"' :: (s.toList.flatMap quoteChar ++ ['"']))

end AlarmMonitor.Text
