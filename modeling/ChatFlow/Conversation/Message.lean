import ChatFlow.Schema.Scalar

/-!
The messages of a conversation.

A message has a speaker, a text and a time; it may name the node that sent it and carry further data
for the channel that delivers it. `Message.toValue` writes the document that `Message.read` reads; the
two agree on every message (`Message.read_toValue`).
-/

namespace ChatFlow

/-- Who speaks. -/
inductive Role where
  | user
  | bot
  | system
deriving Repr, DecidableEq

namespace Role

/-- The word for a speaker. -/
def word : Role → String
  | user => "user"
  | bot => "bot"
  | system => "system"

/-- The words for the speakers. -/
def words : List String := ["user", "bot", "system"]

/-- The speaker named by a word. -/
def ofWord? (w : String) : Option Role :=
  if w == "user" then some user
  else if w == "bot" then some bot
  else if w == "system" then some system
  else none

/-- Reads a speaker. -/
def read (v : Value) : Schema.Checked Role :=
  match v with
  | .text w =>
    match ofWord? w with
    | some r => .valid r
    | none => .unfit (.notOneOf words)
  | _ => .unfit (.notOneOf words)

@[simp] theorem read_word (r : Role) : read (.text r.word) = .valid r := by
  cases r <;> rfl

end Role

/-- One message of a conversation. -/
structure Message where
  role : Role
  content : String
  timestamp : Moment
  /-- The node that sent the message or that the user answered. -/
  nodeId : Option String
  /-- Further data for the channel. -/
  metadata : Option Entries
deriving Repr

namespace Message

open Schema

/-- A dictionary or null. -/
def metadataValue : Option Entries → Value
  | some entries => .dict entries
  | none => .null

/-- The title of a message in reports. -/
def title : String := "FlowMessage"

/-- Reads a message; a time that is not given is the present. -/
def read (now : Moment) : Value → Checked Message :=
  record title fun es =>
    Message.mk <$> required es "role" Role.read
      <*> required es "content" text
      <*> defaulted es "timestamp" now moment
      <*> maybe es "node_id" text
      <*> maybe es "metadata" dict

/-- The entries of a message. -/
def toEntries (m : Message) : Entries :=
  [("role", .text m.role.word),
    ("content", .text m.content),
    ("timestamp", .date m.timestamp),
    ("node_id", .ofText? m.nodeId),
    ("metadata", metadataValue m.metadata)]

/-- The document of a message. -/
def toValue (m : Message) : Value :=
  .dict m.toEntries

/-- Reading the document of a message gives the message back. -/
theorem read_toValue (now : Moment) (m : Message) : read now m.toValue = .valid m := by
  obtain ⟨role, content, timestamp, nodeId, metadata⟩ := m
  cases nodeId <;> cases metadata <;>
    simp [read, toValue, toEntries, record, recordOr, required, maybe, defaulted, field,
      List.lookup_cons, text, moment, dict, nullable, metadataValue, Value.ofText?]

/-- A message of the bot. -/
def ofBot (now : Moment) (content : String) (nodeId : Option String) : Message :=
  ⟨.bot, content, now, nodeId, none⟩

/-- A message of the user. -/
def ofUser (now : Moment) (content : String) (nodeId : Option String) : Message :=
  ⟨.user, content, now, nodeId, none⟩

end Message

end ChatFlow
