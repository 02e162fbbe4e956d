import ChatFlow.Failure
import ChatFlow.Value
import ChatFlow.Json.Writer

/-!
Answers to requests: a status and a JSON document.

Every failure has an answer. The service's own failures show their message and their name under their
own status, a refused request shows its detail, and everything else is an internal error whose wording
stands in the document.
-/

namespace ChatFlow

/-- The answer to a request. -/
structure Response where
  status : Int
  body : Value
deriving Repr

namespace Response

/-- The document of a failure. -/
def failureBody (detail error : String) (status : Int) : Value :=
  .dict [("detail", .text detail), ("error", .text error), ("status_code", .int status)]

/-- The answer to a request that ended with a failure. -/
def ofFailure (f : Failure) : Response :=
  match f.own? with
  | some (message, status) => ⟨status, failureBody message f.name status⟩
  | none =>
    match f with
    | .http status detail => ⟨status, failureBody detail f.text status⟩
    | _ => ⟨500, failureBody "Internal server error" f.text 500⟩

/-- An answer that only has a detail. -/
def refusal (status : Int) (detail : String) : Response :=
  ⟨status, .dict [("detail", .text detail)]⟩

/-! ## Standard phrases -/

/-- The standard phrases of statuses. -/
def phrases : List (Int × String) :=
  [(100, "Continue"), (101, "Switching Protocols"), (102, "Processing"), (103, "Early Hints"),
    (200, "OK"), (201, "Created"), (202, "Accepted"), (203, "Non-Authoritative Information"),
    (204, "No Content"), (205, "Reset Content"), (206, "Partial Content"), (207, "Multi-Status"),
    (208, "Already Reported"), (226, "IM Used"), (300, "Multiple Choices"),
    (301, "Moved Permanently"), (302, "Found"), (303, "See Other"), (304, "Not Modified"),
    (305, "Use Proxy"), (307, "Temporary Redirect"), (308, "Permanent Redirect"),
    (400, "Bad Request"), (401, "Unauthorized"), (402, "Payment Required"), (403, "Forbidden"),
    (404, "Not Found"), (405, "Method Not Allowed"), (406, "Not Acceptable"),
    (407, "Proxy Authentication Required"), (408, "Request Timeout"), (409, "Conflict"),
    (410, "Gone"), (411, "Length Required"), (412, "Precondition Failed"),
    (413, "Request Entity Too Large"), (414, "Request-URI Too Long"),
    (415, "Unsupported Media Type"), (416, "Requested Range Not Satisfiable"),
    (417, "Expectation Failed"), (418, "I'm a Teapot"), (421, "Misdirected Request"),
    (422, "Unprocessable Entity"), (423, "Locked"), (424, "Failed Dependency"),
    (425, "Too Early"), (426, "Upgrade Required"), (428, "Precondition Required"),
    (429, "Too Many Requests"), (431, "Request Header Fields Too Large"),
    (451, "Unavailable For Legal Reasons"), (500, "Internal Server Error"),
    (501, "Not Implemented"), (502, "Bad Gateway"), (503, "Service Unavailable"),
    (504, "Gateway Timeout"), (505, "HTTP Version Not Supported"),
    (506, "Variant Also Negotiates"), (507, "Insufficient Storage"), (508, "Loop Detected"),
    (510, "Not Extended"), (511, "Network Authentication Required")]

/-- A refused request, its detail being the standard phrase of the status. -/
def refused? (status : Int) : Except Failure Failure :=
  match phrases.lookup status with
  | some phrase => .ok (.http status phrase)
  | none => .error (.foreign "ValueError" (toString status ++ " is not a valid HTTPStatus"))

end Response

end ChatFlow
