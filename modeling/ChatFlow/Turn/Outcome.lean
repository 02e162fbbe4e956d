import ChatFlow.Conversation.Message

/-!
What comes out of executing a node, and of a whole turn.

An outcome holds the messages to deliver and the variables to set, says how the walk goes on, and may
hand the conversation over to a person.
-/

namespace ChatFlow

open Schema

/-- A conversation is handed over to a person. -/
structure Handoff where
  reason : String
  priority : Option String
  metadata : Option Entries
deriving Repr

namespace Handoff

/-- The title of a handoff in reports. -/
def title : String := "HandoffData"

/-- The reason given when the author names none. -/
def defaultReason : String := "User requested human agent"

/-- The priority given when the author names none. -/
def defaultPriority : String := "normal"

/-- Reads a handoff. -/
def read : Value → Checked Handoff :=
  record title fun es =>
    Handoff.mk <$> defaulted es "reason" defaultReason text
      <*> defaulted es "priority" (some defaultPriority) (nullable text)
      <*> maybe es "metadata" dict

/-- The entries of a handoff. -/
def toEntries (h : Handoff) : Entries :=
  [("reason", .text h.reason), ("priority", .ofText? h.priority),
    ("metadata", (h.metadata.map Value.dict).getD .null)]

end Handoff

/-- The outcome of one node, or of a turn. -/
structure Outcome where
  success : Bool
  messages : List Message
  /-- The variables to set. -/
  vars : Option Entries
  /-- The node to go on with. -/
  nextNodeId : Option String
  /-- The branch to leave the node by, if no next node is named. -/
  sourceHandle : Option String
  waitingForInput : Bool
  completed : Bool
  handoff : Option Handoff
  error : Option String
deriving Repr

namespace Outcome

/-- The title of an outcome in reports. -/
def title : String := "NodeExecutionResult"

/-- Success, and nothing else happened. -/
def plain : Outcome :=
  ⟨true, [], none, none, none, false, false, none, none⟩

/-- The outcome hands the conversation over. -/
def isHandoff (o : Outcome) : Bool :=
  o.handoff.isSome

/-- Reads an outcome; times that are not given are the present. -/
def read (now : Moment) : Value → Checked Outcome :=
  record title fun es =>
    Outcome.mk <$> defaulted es "success" true truth
      <*> defaulted es "messages" [] (items (Message.read now))
      <*> maybe es "variables" dict
      <*> maybe es "next_node_id" text
      <*> maybe es "source_handle" text
      <*> defaulted es "waiting_for_input" false truth
      <*> defaulted es "completed" false truth
      <*> maybe es "handoff" Handoff.read
      <*> maybe es "error" text

/-- The document of an outcome. -/
def toValue (o : Outcome) : Value :=
  .dict [
    ("success", .bool o.success),
    ("messages", .list (o.messages.map Message.toValue)),
    ("variables", (o.vars.map Value.dict).getD .null),
    ("next_node_id", .ofText? o.nextNodeId),
    ("source_handle", .ofText? o.sourceHandle),
    ("waiting_for_input", .bool o.waitingForInput),
    ("completed", .bool o.completed),
    ("handoff", (o.handoff.map fun h => Value.dict h.toEntries).getD .null),
    ("error", .ofText? o.error)]

end Outcome

end ChatFlow
