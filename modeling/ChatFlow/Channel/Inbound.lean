import ChatFlow.Conversation.Contact

/-!
A message that a channel hands in.
-/

namespace ChatFlow

open Schema

/-- One message of an end user, with the conversation it belongs to. -/
structure Inbound where
  workspaceId : String
  botId : String
  conversationId : String
  message : String
  contact : Option Contact
deriving Repr

namespace Inbound

/-- The title of an inbound message in reports. -/
def title : String := "ProcessMessageRequest"

/-- Reads an inbound message, given what stands against a value that is no dictionary where a record of
some title is due. -/
def readWith (misfit : String → Cause) : Value → Checked Inbound :=
  recordOr (misfit title) fun es =>
    Inbound.mk <$> required es "workspace_id" text
      <*> required es "bot_id" text
      <*> required es "conversation_id" text
      <*> required es "message" text
      <*> maybe es "contact" (recordOr (misfit Contact.title) Contact.ofEntries)

/-- Reads an inbound message. -/
def read : Value → Checked Inbound :=
  readWith .notRecord

/-- Reads an inbound message from the body of a request. -/
def readBody : Value → Checked Inbound :=
  readWith fun _ => .notObject

/-- The document of an inbound message. -/
def toValue (i : Inbound) : Value :=
  .dict [
    ("workspace_id", .text i.workspaceId),
    ("bot_id", .text i.botId),
    ("conversation_id", .text i.conversationId),
    ("message", .text i.message),
    ("contact", (i.contact.map Contact.toValue).getD .null)]

end Inbound

end ChatFlow
