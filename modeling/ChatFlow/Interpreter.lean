import ChatFlow.Channel.Inbound
import ChatFlow.Conversation.Keeping
import ChatFlow.Flow.Dispatch
import ChatFlow.Turn.Walk

/-!
Answering messages.

A message either resumes the run that its conversation is in or starts one. The run is bound to one
version of its flow; if that binding is gone the run is given up and a new one is started. After the
turn the context is saved if it waits for a reply and cleared if the run is over. An interpreter never
fails: whatever goes wrong becomes an outcome with an apology.
-/

namespace ChatFlow

open ChatFlow.Flow (Definition)

/-- How messages are answered. -/
structure Interpreter where
  registry : Registry
  maxHops : Nat
  /-- The hours after which a session expires. -/
  sessionHours : Int

namespace Interpreter

/-- The component name of the interpreter in the log. -/
def component : String := "FlowInterpreterService"

/-- What is said if no flow answers. -/
def noFlowMessage : String :=
  "I'm sorry, I don't have a response configured for that. How else can I help you?"

/-- What is said if something went wrong. -/
def errorMessage : String := "I'm sorry, something went wrong. Please try again."

/-- What is said if the conversation was changed by somebody else. -/
def concurrentMessage : String :=
  "I'm still working on your previous message. Please give me a moment."

/-! ## Outcomes that no node gives -/

/-- An unsuccessful outcome with one message of the bot. -/
def excuse (now : Moment) (message : String) (completed : Bool) (error : String) : Outcome :=
  { Outcome.plain with
    success := false
    messages := [.ofBot now message none]
    completed := completed
    error := some error }

/-- The outcome if no flow answers. -/
def noFlow (now : Moment) : Outcome :=
  excuse now noFlowMessage true "No matching flow found"

/-- The outcome if the conversation was changed by somebody else. -/
def concurrent (now : Moment) : Outcome :=
  excuse now concurrentMessage false "Conversation was updated concurrently"

/-- The outcome if something went wrong. -/
def broken (now : Moment) (cause : Failure) : Outcome :=
  excuse now errorMessage true (if cause.text.isEmpty then "Processing failed" else cause.text)

/-! ## The parts of answering -/

/-- The context to resume, with the definition that it is bound to. A context whose flow, version or
node is gone is cleared. -/
def resume (conversationId : String) : Operation (Option (Context × Definition)) := do
  match ← Keeping.load conversationId with
  | none => return none
  | some context =>
    let definition ← Library.load context.flowId (some context.versionId)
    match definition.bind fun d => (d.node? context.currentNodeId).map fun _ => d with
    | some d => return some (context, d)
    | none =>
      World.warn component
      Keeping.clear conversationId
      return none

/-- Counts a finished run; a failure to do so is logged. -/
def countRun (flowId : String) (success : Bool) : Operation Unit := do
  if !(← Operation.countRun flowId success) then World.warn component

/-- Saves a context; a conflict is thrown. -/
def save (i : Interpreter) (context : Context) : Operation Unit := do
  let _ ← ExceptT.mk (do return (← Keeping.save i.sessionHours context).1)

/-- Executes a turn. -/
def turn (i : Interpreter) (d : Definition) (context : Context) (reply : Option String) :
    Operation (Outcome × Context) :=
  ExceptT.lift (World.onOutside (Turn.takeTurn i.registry i.maxHops d context reply))

/-- Starts a run: the first turn, without a reply, on a fresh context whose history begins with the
message. -/
def start (i : Interpreter) (m : Inbound) (d : Definition) : Operation Outcome := do
  let now ← Operation.now
  let context ← Operation.ofExcept (Context.create? now d m.conversationId m.contact)
  let (outcome, context) ← i.turn d (context.say [.ofUser now m.message none]) none
  if outcome.completed || outcome.isHandoff then
    countRun context.flowId outcome.success
  else if outcome.waitingForInput && (Turn.given? outcome.error).isNone then
    i.save context
  return outcome

/-- Continues a run with the message as the reply. -/
def proceed (i : Interpreter) (m : Inbound) (context : Context) (d : Definition) :
    Operation Outcome := do
  let (outcome, context) ← i.turn d context (some m.message)
  if outcome.completed || outcome.isHandoff then
    Keeping.clear m.conversationId
    countRun context.flowId outcome.success
  else if (Turn.given? outcome.error).isSome then
    Keeping.clear m.conversationId
  else
    i.save context
  return outcome

/-- Answers a message; it may fail. -/
def respond (i : Interpreter) (m : Inbound) : Operation Outcome := do
  match ← resume m.conversationId with
  | some (context, d) => i.proceed m context d
  | none =>
    match ← Dispatch.find m.workspaceId m.botId (.ofMessage m.message) false with
    | none => return noFlow (← Operation.now)
    | some d => i.start m d

/-! ## Answering -/

/-- Answers a message. A conflict leaves the session of the winner alone; every other failure clears
the conversation. -/
def process (i : Interpreter) (m : Inbound) : StateM World Outcome := do
  match ← (i.respond m).run with
  | .ok outcome => return outcome
  | .error (.conflict _ _) =>
    World.warn component
    return concurrent (← get).now
  | .error cause =>
    World.reportError component
    match ← (Keeping.clear m.conversationId).run with
    | .ok () => pure ()
    | .error _ => World.reportError component
    return broken (← get).now cause

end Interpreter

end ChatFlow
