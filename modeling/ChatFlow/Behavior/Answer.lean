import ChatFlow.Behavior.Basic
import ChatFlow.External.Generation
import ChatFlow.Flow.NodeSettings
import ChatFlow.Template

/-!
Nodes that let a language model answer.

Without a reply the node prompts the user. With one it sends the last part of the conversation to the
model, the reply last and only once, and says the answer. If the model fails, a fallback is said and
the flow goes on.
-/

namespace ChatFlow.Behavior

open ChatFlow.Flow (Node Generation)

namespace Answer

/-- The component name of answers in the log. -/
def component : String := "AIAnswerNodeExecutor"

/-- What the user is asked if the author wrote nothing. -/
def defaultPrompt : String := "How can I help you?"

/-- What the model is told if the author wrote nothing. -/
def defaultSystemPrompt : String :=
  "You are a helpful customer service assistant. Be concise and helpful."

/-- What is said if the model has nothing to say. -/
def emptyAnswer : String :=
  "I apologize, but I couldn't generate a response. Please try again."

/-- What is said if the model fails. -/
def failureAnswer : String :=
  "I'm having trouble processing your request right now. Please try again later."

/-- How many messages of the history the model sees. -/
def window : Nat := 10

/-- The text unless it is missing or empty. -/
def textOr (text : Option String) (fallback : String) : String :=
  match text with
  | some s => if s.isEmpty then fallback else s
  | none => fallback

/-- The last items of a list. -/
def lastItems {α : Type} (n : Nat) (xs : List α) : List α :=
  xs.drop (xs.length - n)

/-- A message as the model sees it. -/
def utterance (m : Message) : Utterance :=
  ⟨if m.role == .user then "user" else "assistant", m.content⟩

/-- The history without its last message, if that is the reply itself. -/
def withoutReply (history : List Message) (reply : String) : List Message :=
  match history.getLast? with
  | some m => if m.role == .user && m.content == reply then history.dropLast else history
  | none => history

/-- The conversation that is sent to the model. -/
def conversation (history : List Message) (reply : String) : List Utterance :=
  let spoken := withoutReply (history.filter (·.role != .system)) reply
  (lastItems window spoken).map utterance ++ [⟨"user", reply⟩]

/-- The prompt for a reply. -/
def promptFor (settings : Generation) (context : Context) (reply : String) : Prompt where
  systemPrompt := textOr settings.systemPrompt defaultSystemPrompt
  messages := conversation context.history reply
  model := settings.model
  temperature := .real (settings.temperature.getD 0.7)
  maxTokens := settings.maxTokens.getD 500

/-- The outcome of an answer. -/
def answered (now : Moment) (node : Node) (answer : String) : Outcome :=
  { Outcome.saying [.ofBot now answer (some node.id)] with
    vars := some [("last_ai_response", .text answer)] }

/-- The outcome of a failure of the model. -/
def failed (now : Moment) (node : Node) (settings : Generation) : Outcome :=
  { Outcome.saying [.ofBot now (textOr settings.fallbackMessage failureAnswer) (some node.id)] with
    success := false
    error := some "AI processing failed" }

end Answer

open Answer

/-- A node that lets the model answer. -/
def answer (generator : TextGenerator) : Behavior := fun node context reply => do
  let settings ← Service.ofExcept
    ((Generation.read ((node.setting "aiConfig").orElse (.dict []))).toExcept Generation.title)
  let reply := reply.getD ""
  if reply.isEmpty then
    let prompt ← Service.ofExcept
      (Template.fillValue? context.scope ((node.setting "content").orElse (.text defaultPrompt)))
    return .asking [.ofBot (← Service.now) prompt (some node.id)]
  match ← Service.attempt (generator.generate (promptFor settings context reply)) with
  | .ok text =>
    let text := textOr text (textOr settings.fallbackMessage emptyAnswer)
    return answered (← Service.now) node text
  | .error _ =>
    Service.reportError component
    return failed (← Service.now) node settings

end ChatFlow.Behavior
