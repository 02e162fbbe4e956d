import ChatFlow.Schema.Scalar

/-!
What starts a flow: triggers, and the events they are held against.
-/

namespace ChatFlow

namespace Flow

open Schema

/-- A condition under which a flow starts. -/
structure Trigger where
  /-- The sort of events that the trigger listens to. -/
  kind : String
  conditions : Entries
  /-- Of several flows that match, the one with the highest priority starts; none counts as 0. -/
  priority : Option Int
  extra : Entries
deriving Repr

namespace Trigger

/-- The title of a trigger in reports. -/
def title : String := "FlowTrigger"

/-- Reads a trigger. -/
def read : Value → Checked Trigger :=
  record title fun es =>
    Trigger.mk <$> required es "type" text
      <*> defaulted es "conditions" [] dict
      <*> defaulted es "priority" (some 0) (nullable integer)
      <*> .valid (extras es ["type", "conditions", "priority"])

/-- An integer or null. -/
def priorityValue : Option Int → Value
  | some n => .int n
  | none => .null

/-- The document of a trigger. -/
def toValue (t : Trigger) : Value :=
  .dict ([
    ("type", .text t.kind),
    ("conditions", .dict t.conditions),
    ("priority", priorityValue t.priority)] ++ t.extra)

/-- The priority, a missing one counting as 0. -/
def rank (t : Trigger) : Int :=
  t.priority.getD 0

end Trigger

/-- The sort of an event. -/
inductive EventKind where
  | keyword
  | intent
  | pageUrl
  | event
  | fallback
deriving Repr, DecidableEq

namespace EventKind

/-- The word for a sort of event. -/
def word : EventKind → String
  | keyword => "keyword"
  | intent => "intent"
  | pageUrl => "page_url"
  | event => "event"
  | fallback => "fallback"

/-- All sorts of events. -/
def all : List EventKind := [keyword, intent, pageUrl, event, fallback]

/-- The sort named by a word. -/
def ofWord? (w : String) : Option EventKind :=
  all.find? fun k => k.word == w

/-- Reads a sort of event. -/
def read (v : Value) : Checked EventKind :=
  match v with
  | .text w =>
    match ofWord? w with
    | some k => .valid k
    | none => .unfit (.notOneOf (all.map word))
  | _ => .unfit (.notOneOf (all.map word))

end EventKind

/-- Something that happened and that a flow may answer. -/
structure Event where
  kind : EventKind
  value : Option String
  metadata : Option Entries
deriving Repr

namespace Event

/-- The title of an event in reports. -/
def title : String := "TriggerEvent"

/-- Reads an event. -/
def read : Value → Checked Event :=
  record title fun es =>
    Event.mk <$> required es "type" EventKind.read
      <*> maybe es "value" text
      <*> maybe es "metadata" dict

/-- The document of an event. -/
def toValue (e : Event) : Value :=
  .dict [
    ("type", .text e.kind.word),
    ("value", .ofText? e.value),
    ("metadata", (e.metadata.map Value.dict).getD .null)]

/-- The event of a message that a user wrote. -/
def ofMessage (message : String) : Event :=
  ⟨.keyword, some message, none⟩

/-- The event that is tried when nothing else matches. -/
def lastResort : Event :=
  ⟨.fallback, none, none⟩

end Event

end Flow

end ChatFlow
