import ChatFlow.Conversation.Message
import ChatFlow.Conversation.Contact

/-!
The state of a conversation on its way through a flow.

A context names the flow and version it is bound to and the node it stands at, and holds the variables
and the history. Its `sequence` counts the writes of the stored session it was loaded from; a context
that was never stored has sequence 0.
-/

namespace ChatFlow

/-- The state of one conversation's walk through one version of a flow. -/
structure Context where
  flowId : String
  versionId : String
  conversationId : String
  workspaceId : String
  botId : String
  contact : Contact
  vars : Entries
  history : List Message
  currentNodeId : String
  startedAt : Moment
  lastActivityAt : Moment
  /-- The number of writes of the stored session; 0 before the first. -/
  sequence : Int
deriving Repr

namespace Context

open Schema

/-- The title of a context in reports. -/
def title : String := "FlowContext"

/-- Reads a context; times that are not given are the present. -/
def read (now : Moment) : Value → Checked Context :=
  record title fun es =>
    Context.mk <$> required es "flow_id" text
      <*> required es "version_id" text
      <*> required es "conversation_id" text
      <*> required es "workspace_id" text
      <*> required es "bot_id" text
      <*> defaulted es "contact" Contact.unknown Contact.read
      <*> defaulted es "variables" [] dict
      <*> defaulted es "message_history" [] (items (Message.read now))
      <*> required es "current_node_id" text
      <*> defaulted es "started_at" now moment
      <*> defaulted es "last_activity_at" now moment
      <*> defaulted es "sequence" 0 integer

/-- The document of a context. -/
def toValue (c : Context) : Value :=
  .dict [
    ("flow_id", .text c.flowId),
    ("version_id", .text c.versionId),
    ("conversation_id", .text c.conversationId),
    ("workspace_id", .text c.workspaceId),
    ("bot_id", .text c.botId),
    ("contact", c.contact.toValue),
    ("variables", .dict c.vars),
    ("message_history", .list (c.history.map Message.toValue)),
    ("current_node_id", .text c.currentNodeId),
    ("started_at", .date c.startedAt),
    ("last_activity_at", .date c.lastActivityAt),
    ("sequence", .int c.sequence)]

/-- The context with further messages at the end of its history. -/
def say (c : Context) (messages : List Message) : Context :=
  { c with history := c.history ++ messages }

/-- The variables as the value that paths and templates look into. -/
def scope (c : Context) : Value :=
  .dict c.vars

end Context

end ChatFlow
