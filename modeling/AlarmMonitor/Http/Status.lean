import AlarmMonitor.Http.Failure

/-!
# Response codes

The reason that goes with each known code, and the codes that are errors.
-/

set_option autoImplicit false

namespace AlarmMonitor.Http.Status

/-- The reasons of the codes that are errors. -/
def reasons : List (Nat × String) :=
  [(400, "Bad Request"), (401, "Unauthorized"), (402, "Payment Required"), (403, "Forbidden"),
   (404, "Not Found"), (405, "Method Not Allowed"), (406, "Not Acceptable"),
   (407, "Proxy Authentication Required"), (408, "Request Timeout"), (409, "Conflict"),
   (410, "Gone"), (411, "Length Required"), (412, "Precondition Failed"),
   (413, "Payload Too Large"), (414, "URI Too Long"), (415, "Unsupported Media Type"),
   (416, "Range Not Satisfiable"), (417, "Expectation Failed"), (418, "I'm a teapot"),
   (421, "Misdirected Request"), (422, "Unprocessable Entity"), (423, "Locked"),
   (424, "Failed Dependency"), (425, "Too Early"), (426, "Upgrade Required"),
   (428, "Precondition Required"), (429, "Too Many Requests"),
   (431, "Request Header Fields Too Large"), (451, "Unavailable For Legal Reasons"),
   (500, "Internal Server Error"), (501, "Not Implemented"), (502, "Bad Gateway"),
   (503, "Service Unavailable"), (504, "Gateway Timeout"), (505, "HTTP Version Not Supported"),
   (506, "Variant Also Negotiates"), (507, "Insufficient Storage"), (508, "Loop Detected"),
   (510, "Not Extended"), (511, "Network Authentication Required")]

/-- The code with its reason. -/
def text (code : Nat) : String :=
  toString code ++ " " ++ (reasons.lookup code).getD "<unknown status code>"

/-- Whose fault a code says it is; none if it is no error. -/
def blame (code : Nat) : Option String :=
  if 400 ≤ code ∧ code < 500 then some "client"
  else if 500 ≤ code ∧ code < 600 then some "server"
  else none

/-- The failure that a response with this code from this URL is, if it is one. -/
def failure? (code : Nat) (url : String) : Option Failure :=
  (blame code).map fun who =>
    .http ("HTTP status " ++ who ++ " error (" ++ text code ++ ") for url (" ++ url ++ ")")

/-- A code is a failure exactly if it lies in one of the two ranges of errors. -/
theorem failure?_isSome_iff (code : Nat) (url : String) :
    (failure? code url).isSome ↔ 400 ≤ code ∧ code < 600 := by
  simp only [failure?, blame, Option.isSome_map]
  split
  · simp; omega
  · split
    · simp; omega
    · simp; omega

end AlarmMonitor.Http.Status
