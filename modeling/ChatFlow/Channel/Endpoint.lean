import ChatFlow.Channel.Reply
import ChatFlow.Channel.Response
import ChatFlow.Interpreter
import ChatFlow.Json.Reader

/-!
The HTTP interface.

Channels hand in messages at `/flow/message`; whoever publishes flows has definitions dropped from
memory under `/flow/cache`; two addresses tell that the service is alive. A path is compared after its
percent escapes are resolved, and a path that only misses a slash at its end or has too many of them is
led to the right one.
-/

namespace ChatFlow

/-- A request to the service. -/
structure HttpRequest where
  method : String
  path : String
  body : Option String
deriving Repr

namespace Endpoint

/-! ## Paths -/

/-- The bytes of a text with percent escapes. -/
def unescapedBytes : List Char → List UInt8
  | '%' :: a :: b :: rest =>
    match Json.hexValue? a, Json.hexValue? b with
    | some x, some y => (x * 16 + y).toUInt8 :: unescapedBytes rest
    | _, _ => '%'.toUInt8 :: unescapedBytes (a :: b :: rest)
  | c :: rest => (String.singleton c).toUTF8.toList ++ unescapedBytes rest
  | [] => []

/-- A text with its percent escapes resolved; bytes that are no text become replacement signs. -/
def unescaped (s : String) : String :=
  let bytes := unescapedBytes s.toList
  match String.fromUTF8? ⟨bytes.toArray⟩ with
  | some t => t
  | none => String.ofList (bytes.map fun b => if b < 0x80 then Char.ofNat b.toNat else '\uFFFD')

/-- What the service has at a path. -/
inductive Route where
  | health
  | message
  | messageHealth
  | clearCache
  | invalidate (flowId : String)
deriving Repr, DecidableEq

namespace Route

/-- The path under which a flow's definitions are dropped, without the flow. -/
def invalidatePath : String := "/flow/cache/invalidate/"

/-- The route at exactly this path. -/
def at? (path : String) : Option Route :=
  if path == "/health" then some health
  else if path == "/flow/message" then some message
  else if path == "/flow/message/health" then some messageHealth
  else if path == "/flow/cache/clear" then some clearCache
  else if path.startsWith invalidatePath then
    let flowId := path.toList.drop invalidatePath.length
    if flowId.isEmpty || flowId.contains '/' then none
    else some (invalidate (String.ofList flowId))
  else none

/-- The path with all slashes at its end taken away, or with one added if there is none. -/
def otherSlash (path : String) : String :=
  let backwards := path.toList.reverse
  if backwards.head? == some '/' then String.ofList (backwards.dropWhile (· == '/')).reverse
  else path ++ "/"

/-- The route that a path leads to. -/
def ofPath? (path : String) : Option Route :=
  let path := unescaped (String.ofList (path.toList.takeWhile fun c => c != '?' && c != '#'))
  (at? path).orElse fun _ => at? (otherSlash path)

/-- The method of a route. -/
def method : Route → String
  | health | messageHealth => "GET"
  | message | clearCache | invalidate _ => "POST"

end Route

/-! ## Bodies -/

/-- The document of an issue in a refused body. -/
def issueValue (i : Schema.Issue) : Value :=
  let place : Schema.Place → Value
    | .name s => .text s
    | .index n => .int n
  .dict [("type", .text i.cause.code), ("loc", .list ((.name "body" :: i.place).map place)),
    ("msg", .text i.cause.message)]

/-- The answer to a body that is not fit. -/
def unfit (issues : List Schema.Issue) : Response :=
  ⟨422, .dict [("detail", .list (issues.map issueValue))]⟩

/-- A text without a byte order mark in front. -/
def withoutMark (s : String) : String :=
  match s.toList with
  | '\uFEFF' :: rest => String.ofList rest
  | _ => s

/-- Why a body gives no message. -/
inductive BodyFault where
  | unfit (issues : List Schema.Issue)
  /-- The body cannot be read at all. -/
  | unreadable
deriving Repr

/-- Reads the message in a body. -/
def readBody (body : Option String) : Except BodyFault Inbound :=
  let body := body.filter fun s => !s.isEmpty
  match body with
  | none => .error (.unfit [⟨[], .missing⟩])
  | some s =>
    let s := withoutMark s
    match Json.parse s with
    | .error (.broken left) => .error (.unfit [⟨[.index (Json.position s left)], .brokenJson⟩])
    | .error (.tooLong _) => .error .unreadable
    | .ok v =>
      match Inbound.readBody v with
      | .valid m => .ok m
      | .invalid issues => .error (.unfit issues)

/-- The failure to answer with a record id. -/
def unanswerable : Failure :=
  .foreign "SerializationError" "Unable to serialize unknown type: <class 'bson.objectid.ObjectId'>"

mutual

/-- A document as it is answered: points in time as texts, and nothing in the place of a number that is
not finite. A record id has no place in it. -/
def documentOf? : Value → Except Failure Value
  | .date m =>
    let text := if m.offset == some 0 then (Moment.mk m.micros none).isoText ++ "Z" else m.isoText
    .ok (.text text)
  | .float x => .ok (if x.isFinite then .float x else .null)
  | .recordId _ => .error unanswerable
  | .list items => (documentItems? items).map .list
  | .dict entries => (documentEntries? entries).map .dict
  | v => .ok v

/-- The items of a list as they are answered. -/
def documentItems? : List Value → Except Failure (List Value)
  | [] => .ok []
  | v :: rest =>
    match documentOf? v with
    | .error f => .error f
    | .ok v => (documentItems? rest).map (v :: ·)

/-- The entries of a dictionary as they are answered. -/
def documentEntries? : List (String × Value) → Except Failure Entries
  | [] => .ok []
  | (k, v) :: rest =>
    match documentOf? v with
    | .error f => .error f
    | .ok v => (documentEntries? rest).map ((k, v) :: ·)

end

/-! ## Requests -/

/-- The answer to a failure, which is logged. -/
def failed (f : Failure) : StateM World Response := do
  World.reportError Interpreter.component
  return .ofFailure f

/-- The answer to a request that hands in a message; `write` gives the document of the reply the form in
which it is answered. -/
def receive (write : Value → Except Failure Value) (i : Interpreter) (body : Option String) :
    StateM World Response := do
  match readBody body with
  | .error (.unfit issues) => return unfit issues
  | .error .unreadable => failed (.http 400 "There was an error parsing the body")
  | .ok m =>
    let outcome ← i.process m
    match write (Reply.ofOutcome outcome).toValue with
    | .ok document => return ⟨200, document⟩
    | .error f => failed f

/-- The name under which the service answers that it is alive. -/
def serviceName : Value := .text "flow_interpreter_service"

/-- The answer of a route to its method. -/
def serve (write : Value → Except Failure Value) (i : Interpreter) (route : Route)
    (body : Option String) : StateM World Response := do
  match route with
  | .health => return ⟨200, .dict [("status", .text "healthy"), ("service", serviceName)]⟩
  | .messageHealth =>
    return ⟨200, .dict [("status", .text "healthy"), ("api", .text "flow_message_api"),
      ("service", serviceName)]⟩
  | .message => receive write i body
  | .clearCache =>
    Library.clear
    return ⟨200, .dict [("status", .text "success")]⟩
  | .invalidate flowId =>
    let removed ← Library.invalidate flowId
    return ⟨200, .dict [("status", .text "success"), ("flow_id", .text flowId),
      ("removed_entries", .int removed)]⟩

/-- The answer to a request, with a way to write the documents of replies. -/
def handleWith (write : Value → Except Failure Value) (i : Interpreter) (r : HttpRequest) :
    StateM World Response := do
  match Route.ofPath? r.path with
  | none => return .refusal 404 "Not Found"
  | some route =>
    if r.method == route.method then serve write i route r.body
    else return .refusal 405 "Method Not Allowed"

/-- The answer to a request. -/
def handle : Interpreter → HttpRequest → StateM World Response := handleWith documentOf?

end Endpoint

end ChatFlow
