import AlarmMonitor.Json.Token

/-!
# Compact text of a value

A value is written as its tokens, without layout between them.
-/

set_option autoImplicit false

namespace AlarmMonitor.Json.Value

mutual

/-- The tokens of a value. -/
def tokens : Value → List Token
  | .null => [.null]
  | .bool b => [.bool b]
  | .number n => [.number (some n)]
  | .string s => [.string (some s)]
  | .array items => .openArray :: (itemTokens items ++ [.closeArray])
  | .object members => .openObject :: (memberTokens members ++ [.closeObject])

/-- The tokens of the items of an array, with commas between them. -/
def itemTokens : List Value → List Token
  | [] => []
  | [v] => v.tokens
  | v :: rest => v.tokens ++ .comma :: itemTokens rest

/-- The tokens of the members of an object, with commas between them. -/
def memberTokens : List (String × Value) → List Token
  | [] => []
  | [(name, v)] => .string (some name) :: .colon :: v.tokens
  | (name, v) :: rest =>
    .string (some name) :: .colon :: (v.tokens ++ .comma :: memberTokens rest)

end

/-- The compact text of a value. -/
def text (v : Value) : String := String.ofList (v.tokens.flatMap Token.text)

end AlarmMonitor.Json.Value
