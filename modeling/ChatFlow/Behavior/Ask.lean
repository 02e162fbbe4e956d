import ChatFlow.Behavior.Basic
import ChatFlow.Flow.NodeSettings
import ChatFlow.Template
import ChatFlow.Value.Number
import ChatFlow.Text.Lowercase
import ChatFlow.Text.Digit
import ChatFlow.Text.Search

/-!
Question nodes.

A question without a reply is asked. With options, a reply names one of them: by its value or label,
else by its number counted from one, else by a part of its label, case and surrounding blanks never
counting. The value of the option is stored and its branch is taken; a reply that names no option is
asked for again. Without options every reply is stored as it is, less the blanks around it.
-/

namespace ChatFlow.Behavior

open ChatFlow.Flow (Node Choice)

namespace Ask

/-- The variable that a reply is stored in if the author names none. -/
def defaultVariable : String := "last_answer"

/-- What is said to a reply that names no option. -/
def defaultRetryMessage : String :=
  "I didn't understand that. Please select one of the options."

/-! ## Settings -/

/-- The options of a question. -/
def choices? (node : Node) : Except Failure (List Choice) :=
  match (node.setting "options").elementsIfPresent? with
  | .error f => .error f
  | .ok vs =>
    (readEach? Choice.title Choice.read vs).mapError (asNodeFailure node.id "options on question")

/-- The name of the variable that a reply is stored in. -/
def variableName? (node : Node) : Except Failure String :=
  ((node.setting "variable").orElse (.text defaultVariable)).display?

/-- The data that shows the options to a channel. -/
def choicesMetadata (choices : List Choice) : Option Entries :=
  if choices.isEmpty then none
  else
    some [("options", .list (choices.map fun c =>
      .dict [("id", .text c.id), ("label", .text c.label), ("value", .text c.value)]))]

/-! ## Replies -/

/-- A reply without surrounding blanks and without case. -/
def normalized (reply : String) : List Char :=
  Text.lowerChars (Text.trimChars reply.toList)

/-- The value or the label of an option is the reply, case aside. -/
def isNamedBy (reply : List Char) (c : Choice) : Bool :=
  Text.lowerChars c.value.toList == reply || Text.lowerChars c.label.toList == reply

/-- The reply looks like a number. -/
def looksNumeric (reply : List Char) : Bool :=
  !reply.isEmpty && reply.all Text.isDigit

/-- The option with the number that the reply spells. A reply may look like a number and still spell
none. -/
def numbered? (choices : List Choice) (reply : List Char) : Except Failure (Option Choice) :=
  if looksNumeric reply then
    match Decimal.readInteger (String.ofList reply) with
    | .ok n => .ok (if 0 < n then choices[n.toNat - 1]? else none)
    | .error .malformed => .error (.badInteger (String.ofList reply))
    | .error (.tooLong digits) => .error (.numeralTooLong digits)
  else .ok none

/-- The option that a reply names. -/
def choose? (choices : List Choice) (reply : String) : Except Failure (Option Choice) :=
  let reply := normalized reply
  match choices.find? (isNamedBy reply) with
  | some c => .ok (some c)
  | none =>
    match numbered? choices reply with
    | .error f => .error f
    | .ok (some c) => .ok (some c)
    | .ok none => .ok (choices.find? fun c => Text.occursIn reply (Text.lowerChars c.label.toList))

/-- The reply holds nothing but blanks, or there is none. -/
def isBlankReply (reply : Option String) : Bool :=
  (Text.trimChars (reply.getD "").toList).isEmpty

end Ask

open Ask

/-- A question node asks, stores a reply, or asks again. -/
def question : Behavior := fun node context reply => do
  let choices ← Service.ofExcept (choices? node)
  let variableName ← Service.ofExcept (variableName? node)
  if isBlankReply reply then
    let content ← Service.ofExcept (Template.fillValue? context.scope (node.setting "content"))
    return .asking [{ Message.ofBot (← Service.now) content (some node.id) with
      metadata := choicesMetadata choices }]
  let reply := reply.getD ""
  if choices.isEmpty then
    return .setting [(variableName, .text (Text.trim reply))]
  match ← Service.ofExcept (choose? choices reply) with
  | some c =>
    return { Outcome.setting [(variableName, .text c.value)] with
      nextNodeId := c.nextNodeId
      sourceHandle := some c.id }
  | none =>
    let retry := (node.setting "retryMessage").orElse (.text defaultRetryMessage)
    return .asking [← Service.ofExcept (Message.fromSetting? (← Service.now) retry node.id)]

end ChatFlow.Behavior
