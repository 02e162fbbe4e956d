import ChatFlow.Behavior.Basic
import ChatFlow.Flow.NodeSettings
import ChatFlow.Json.Reader
import ChatFlow.Template

/-!
Nodes that call another service.

The JSON document in the answer is stored in a variable. A call that fails, for its settings, on its
way or by its status, stores the reason in a second variable whose name ends in `_error`, and the flow
goes on.
-/

namespace ChatFlow.Behavior

open ChatFlow.Flow (Node Request)

namespace Fetch

/-- The component name of calls in the log. -/
def component : String := "APICallNodeExecutor"

/-- The variable that an answer is stored in if the author names none. -/
def defaultVariable : String := "api_response"

/-- The variable that the answer is stored in. -/
def responseVariable (settings : Value) : String :=
  match settings.entry "responseVariable" with
  | .text s => if s.isEmpty then defaultVariable else s
  | _ => defaultVariable

/-- The variable that holds the reason of a failure. -/
def errorVariable (name : String) : String :=
  name ++ "_error"

/-- The sorts of failure on the way to another service and back. -/
def transportFailures : List String :=
  ["HTTPError", "RequestError", "TransportError", "TimeoutException", "ConnectTimeout",
    "ReadTimeout", "WriteTimeout", "PoolTimeout", "NetworkError", "ConnectError", "ReadError",
    "WriteError", "CloseError", "ProtocolError", "LocalProtocolError", "RemoteProtocolError",
    "ProxyError", "UnsupportedProtocol", "DecodingError", "TooManyRedirects", "HTTPStatusError",
    "InvalidURL"]

/-- The failure belongs to the call and is stored; every other one goes to the caller. -/
def isHandled : Failure → Bool
  | .invalid _ => true
  | .foreign name _ => transportFailures.contains name
  | _ => false

/-- Headers with their places filled, over the standard ones. -/
def headers? (scope : Value) (headers : Entries) : Except Failure Entries :=
  let rec go (done : Entries) : Entries → Except Failure Entries
    | [] => .ok done
    | (k, v) :: rest => do
      let text ← Template.fill? scope (← v.display?)
      go (Entries.insert k (.text text) done) rest
  go [("Content-Type", .text "application/json")] headers

/-- The body with its places filled; an empty one counts as none. -/
def body? (scope : Value) (body : Option Entries) : Except Failure (Option Value) :=
  match body with
  | some (e :: rest) => (Template.fillWithin? scope (.dict (e :: rest))).map some
  | _ => .ok none

/-- The request that a node's settings ask for. -/
def request? (timeout : Quantity) (settings scope : Value) : Except Failure HttpCall := do
  let r ← (Request.read settings).toExcept Request.title
  let url ← Template.fillValue? scope (.text r.url)
  let headers ← headers? scope (r.headers.getD [])
  let body ← body? scope r.body
  return {
    method := .text r.method
    url := .text url
    timeout := timeout
    headers := headers
    payload := .json (if r.method == "GET" then none else body) }

/-- The document in a body; an empty dictionary if there is none. -/
def document (body : String) : Value :=
  match Json.parse body with
  | .ok v => v
  | .error _ => .dict []

/-- The outcome of a call that brought no answer. -/
def failed (name error : String) : Outcome :=
  { Outcome.setting [(errorVariable name, .text error)] with success := false, error := some error }

/-- The outcome of an answer. -/
def answered (name : String) (status : Int) (body : String) : Outcome :=
  if isSuccessStatus status then .setting [(name, document body)]
  else
    let error := "API call failed with status " ++ toString status
    { Outcome.setting [(name, document body), (errorVariable name, .text error)] with
      success := false, error := some error }

end Fetch

open Fetch

/-- A node that calls another service. -/
def fetch (timeout : Quantity) : Behavior := fun node context _ => do
  let settings := node.setting "apiConfig"
  if !settings.isPresent then
    return { Outcome.plain with success := false, error := some "No API config" }
  let name := responseVariable settings
  let exchange : Service (Int × String) := do
    Service.send (← Service.ofExcept (request? timeout settings context.scope))
  match ← Service.attempt exchange with
  | .ok (status, body) =>
    if !isSuccessStatus status then Service.warn component
    return answered name status body
  | .error f =>
    if !isHandled f then throw f
    Service.reportError component
    return failed name f.textOrName

end ChatFlow.Behavior
