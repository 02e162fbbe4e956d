import ChatFlow.Value
import ChatFlow.Failure

/-!
What the service meets outside itself.

`Outside` holds the clock, the answers that other services will give, and a journal: the calls made so
far and the log lines of some weight. A call takes the next answer off its queue. `Service` is an
activity that uses the outside and may fail; what it did before it failed remains done.
-/

namespace ChatFlow

/-! ## Requests and their answers -/

/-- What a request carries. -/
inductive Payload where
  /-- A JSON document, or nothing. -/
  | json (body : Option Value)
  /-- A finished text. -/
  | content (text : String)
deriving Repr

/-- A request to another service. -/
structure HttpCall where
  method : Value
  url : Value
  timeout : Quantity
  headers : Entries
  payload : Payload
deriving Repr

/-- The answer to a request. -/
inductive HttpAnswer where
  | response (status : Int) (body : String)
  | failure (cause : Failure)
deriving Repr

/-- One turn of a conversation as a language model sees it. -/
structure Utterance where
  role : String
  content : String
deriving Repr, DecidableEq

/-- A request for a completion. -/
structure CompletionCall where
  model : String
  messages : List Utterance
  temperature : Quantity
  maxTokens : Int
deriving Repr

/-- The answer to a request for a completion: the texts to choose from, or a failure. -/
inductive CompletionAnswer where
  | choices (contents : List (Option String))
  | failure (cause : Failure)
deriving Repr

/-- A call that was made. -/
inductive Call where
  | http (call : HttpCall)
  | completion (call : CompletionCall)
deriving Repr

/-! ## The journal -/

/-- The weight of a log line. -/
inductive Weight where
  | warning
  | error
deriving Repr, DecidableEq

/-- A log line, by its weight and the component that wrote it. -/
structure LogLine where
  weight : Weight
  component : String
deriving Repr, DecidableEq

/-- The clock, the answers to come and the journal. -/
structure Outside where
  now : Moment
  httpAnswers : List HttpAnswer
  completionAnswers : List CompletionAnswer
  calls : List Call
  log : List LogLine
deriving Repr

/-- An activity that uses the outside and may fail. -/
abbrev Service := ExceptT Failure (StateM Outside)

namespace Outside

/-- The outside with one more log line. -/
def note (weight : Weight) (component : String) (o : Outside) : Outside :=
  { o with log := o.log ++ [⟨weight, component⟩] }

/-- The outside with one more call in its journal. -/
def record (call : Call) (o : Outside) : Outside :=
  { o with calls := o.calls ++ [call] }

/-- The answer to a request when none is left. -/
def noAnswer : HttpAnswer :=
  .failure (.foreign "ConnectError" "no scripted response")

/-- The completion when none is left. -/
def standardCompletion : CompletionAnswer :=
  .choices [some "Generated answer"]

/-- Makes a request and takes its answer. -/
def send (call : HttpCall) (o : Outside) : HttpAnswer × Outside :=
  let o := o.record (.http call)
  match o.httpAnswers with
  | answer :: rest => (answer, { o with httpAnswers := rest })
  | [] => (noAnswer, o)

/-- Asks for a completion and takes the answer. -/
def complete (call : CompletionCall) (o : Outside) : CompletionAnswer × Outside :=
  let o := o.record (.completion call)
  match o.completionAnswers with
  | answer :: rest => (answer, { o with completionAnswers := rest })
  | [] => (standardCompletion, o)

end Outside

/-! ## Activities -/

namespace Service

/-- The present time. -/
def now : Service Moment := do
  return (← get).now

/-- Writes a warning. -/
def warn (component : String) : StateM Outside Unit :=
  modify (·.note .warning component)

/-- Writes an error. -/
def reportError (component : String) : StateM Outside Unit :=
  modify (·.note .error component)

/-- Gives a value or fails. -/
def ofExcept {α : Type} : Except Failure α → Service α
  | .ok a => pure a
  | .error f => throw f

/-- The result of an activity, or its failure, as a value. -/
def attempt {α : Type} (x : Service α) : Service (Except Failure α) :=
  ExceptT.lift x.run

/-- Makes a request; gives the status and the body of the response. -/
def send (call : HttpCall) : Service (Int × String) := do
  match ← modifyGet (·.send call) with
  | .response status body => return (status, body)
  | .failure cause => throw cause

/-- Asks for a completion; gives the texts to choose from. -/
def complete (call : CompletionCall) : Service (List (Option String)) := do
  match ← modifyGet (·.complete call) with
  | .choices contents => return contents
  | .failure cause => throw cause

end Service

/-- The status tells success. -/
def isSuccessStatus (status : Int) : Bool :=
  200 ≤ status && status ≤ 299

end ChatFlow
