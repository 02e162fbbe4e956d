import ChatFlow.Conversation.Context

/-!
The stored form of a context.

There is one session for a conversation. It holds what the context holds, the contact's parts beside
the others, and a status, and it expires. The messages of its history are kept as plain dictionaries,
to be read one by one.
-/

namespace ChatFlow

/-- The stored form of a context. -/
structure Session where
  id : Option String
  conversationId : String
  workspaceId : String
  botId : String
  flowId : String
  versionId : String
  currentNodeId : String
  vars : Entries
  history : List Entries
  contactId : Option String
  contactName : Option String
  contactEmail : Option String
  status : String
  sequence : Int
  startedAt : Moment
  lastActivityAt : Moment
  expiresAt : Moment
deriving Repr

namespace Session

open Schema

/-- The title of a session in reports. -/
def title : String := "FlowSessionData"

/-- The status of a session that may be resumed. -/
def active : String := "active"

/-- The status of a session whose conversation has ended. -/
def completed : String := "completed"

/-- Reads a session; times that are not given are the present, except for the expiry. -/
def read (now : Moment) : Value → Checked Session :=
  record title fun es =>
    Session.mk <$> maybe es "id" text
      <*> required es "conversation_id" text
      <*> required es "workspace_id" text
      <*> required es "bot_id" text
      <*> required es "flow_id" text
      <*> required es "version_id" text
      <*> required es "current_node_id" text
      <*> defaulted es "variables" [] dict
      <*> defaulted es "message_history" [] (items dict)
      <*> maybe es "contact_id" text
      <*> maybe es "contact_name" text
      <*> maybe es "contact_email" text
      <*> defaulted es "status" active text
      <*> defaulted es "sequence" 1 integer
      <*> defaulted es "started_at" now moment
      <*> defaulted es "last_activity_at" now moment
      <*> required es "expires_at" moment

/-- The entries of a session that are stored. -/
def toEntries (s : Session) : Entries :=
  [("conversation_id", .text s.conversationId),
    ("workspace_id", .text s.workspaceId),
    ("bot_id", .text s.botId),
    ("flow_id", .text s.flowId),
    ("version_id", .text s.versionId),
    ("current_node_id", .text s.currentNodeId),
    ("variables", .dict s.vars),
    ("message_history", .list (s.history.map .dict)),
    ("contact_id", .ofText? s.contactId),
    ("contact_name", .ofText? s.contactName),
    ("contact_email", .ofText? s.contactEmail),
    ("status", .text s.status),
    ("sequence", .int s.sequence),
    ("started_at", .date s.startedAt),
    ("last_activity_at", .date s.lastActivityAt),
    ("expires_at", .date s.expiresAt)]

/-- The document of a session. -/
def toValue (s : Session) : Value :=
  .dict (("id", .ofText? s.id) :: s.toEntries)

end Session

end ChatFlow
