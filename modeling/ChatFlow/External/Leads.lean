import ChatFlow.Outside
import ChatFlow.Json.Reader
import ChatFlow.Value.Display

/-!
Creating leads in the lead management service.

A lead is created by one request. The answer counts only with status 200 or 201 and a JSON dictionary
that holds an id, either itself or under `lead`; the text of that id is the result. Everything else is
logged and gives nothing.
-/

namespace ChatFlow

/-- Where leads are created. -/
structure LeadService where
  /-- The address of the service; the empty text if there is none. -/
  baseUrl : String
  timeout : Quantity
deriving Repr

/-- What is known about a lead. -/
structure Lead where
  workspaceId : Value
  botId : Value
  name : Value
  email : Value
  phone : Value
  metadata : Value
deriving Repr

namespace Lead

/-- An entry, unless its value counts as absent. -/
def entryIfPresent (key : String) (v : Value) : Entries :=
  if v.isPresent then [(key, v)] else []

/-- The document of a new lead. -/
def toEntries (l : Lead) : Entries :=
  [("workspace_id", l.workspaceId), ("bot_id", l.botId), ("name", l.name),
    ("status", .text "new"), ("source", .text "flow")]
    ++ entryIfPresent "email" l.email ++ entryIfPresent "phone" l.phone
    ++ entryIfPresent "metadata" l.metadata

end Lead

namespace LeadService

/-- The name under which this component logs. -/
def component : String := "LeadService"

/-- The request that creates a lead. -/
def request (s : LeadService) (l : Lead) : HttpCall where
  method := .text "POST"
  url := .text (s.baseUrl ++ "/leads")
  timeout := s.timeout
  headers := [("x-workspace-id", l.workspaceId), ("Content-Type", .text "application/json")]
  payload := .json (some (.dict l.toEntries))

/-- The id in the answer of the service. -/
def idOf? (answer : Value) : Option Value :=
  match answer with
  | .dict entries =>
    match entries.lookup "id" with
    | some id => some id
    | none =>
      match entries.lookup "lead" with
      | some (.dict lead) => lead.lookup "id"
      | _ => none
  | _ => none

/-- The id of the created lead as text, from the status and body of the answer. -/
def readAnswer? (status : Int) (body : String) : Option String :=
  if status == 200 || status == 201 then
    match Json.parse body with
    | .ok answer => (idOf? answer).bind fun id => id.display?.toOption
    | .error _ => none
  else none

/-- Sends the request for a lead, which needs the text of its email for the log. -/
def exchange (s : LeadService) (l : Lead) : Service (Option String) := do
  let _ ← Service.ofExcept l.email.display?
  let (status, body) ← Service.send (s.request l)
  return readAnswer? status body

/-- Creates a lead; gives its id, or nothing if that failed. -/
def create (s : LeadService) (l : Lead) : StateM Outside (Option String) := do
  if s.baseUrl.isEmpty then
    Service.warn component
    return none
  match ← (s.exchange l).run with
  | .ok (some id) => return some id
  | .ok none | .error _ =>
    Service.reportError component
    return none

end LeadService

end ChatFlow
