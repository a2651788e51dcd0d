import AlarmMonitor.Http.Domain.Label
import AlarmMonitor.Text.Utf8

/-!
# Domain names

The name of a host in ASCII.  Each character is first given its plain form, and the text its composed
form; then the name is taken label by label.
-/

set_option autoImplicit false

namespace AlarmMonitor.Http.Domain

/-- The labels of a name given by its bytes. -/
def labels (bytes : List UInt8) : Option (List Label) :=
  let cs := Text.composed ((Text.decode bytes).toList.flatMap plain)
  if cs.all isFit then (Text.splitBy (· == '.') cs).mapM Label.ofPlain else none

/-- The form in ASCII of a name given by its bytes; none if it is no name. -/
def ofBytes (bytes : List UInt8) : Option (List Char) := do
  let ls ← labels bytes
  if ls.any (isLeftward ·.shown) && !ls.all (hasOneDirection ·.shown) then none
  else return ['.'].intercalate (ls.map (·.written))

end AlarmMonitor.Http.Domain
