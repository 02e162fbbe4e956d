import ChatFlow.Turn.Outcome

/-!
What a channel gets back: the messages to deliver, in order, and how the conversation stands.
-/

namespace ChatFlow

open Schema

/-- A message on its way to a channel. -/
structure Outbound where
  role : String
  content : String
  nodeId : Option String
  metadata : Option Entries
deriving Repr

namespace Outbound

/-- The title of an outbound message in reports. -/
def title : String := "OutboundMessage"

/-- Reads an outbound message. -/
def read : Value → Checked Outbound :=
  record title fun es =>
    Outbound.mk <$> required es "role" text
      <*> required es "content" text
      <*> maybe es "node_id" text
      <*> maybe es "metadata" dict

/-- A message without the time at which it was made. -/
def ofMessage (m : Message) : Outbound :=
  ⟨m.role.word, m.content, m.nodeId, m.metadata⟩

/-- The document of an outbound message. -/
def toValue (m : Outbound) : Value :=
  .dict [
    ("role", .text m.role),
    ("content", .text m.content),
    ("node_id", .ofText? m.nodeId),
    ("metadata", (m.metadata.map Value.dict).getD .null)]

end Outbound

/-- The answer to an inbound message. -/
structure Reply where
  success : Bool
  messages : List Outbound
  waitingForInput : Bool
  completed : Bool
  handoff : Option Entries
  error : Option String
deriving Repr

namespace Reply

/-- The title of a reply in reports. -/
def title : String := "ProcessMessageResponse"

/-- Reads a reply. -/
def read : Value → Checked Reply :=
  record title fun es =>
    Reply.mk <$> required es "success" truth
      <*> defaulted es "messages" [] (items Outbound.read)
      <*> defaulted es "waiting_for_input" false truth
      <*> defaulted es "completed" false truth
      <*> maybe es "handoff" dict
      <*> maybe es "error" text

/-- The part of a turn's outcome that a channel needs. -/
def ofOutcome (o : Outcome) : Reply :=
  ⟨o.success, o.messages.map Outbound.ofMessage, o.waitingForInput, o.completed,
    o.handoff.map Handoff.toEntries, o.error⟩

/-- The document of a reply. -/
def toValue (r : Reply) : Value :=
  .dict [
    ("success", .bool r.success),
    ("messages", .list (r.messages.map Outbound.toValue)),
    ("waiting_for_input", .bool r.waitingForInput),
    ("completed", .bool r.completed),
    ("handoff", (r.handoff.map Value.dict).getD .null),
    ("error", .ofText? r.error)]

end Reply

end ChatFlow
