import ChatFlow.Schema.Scalar

/-!
The graph of a flow: nodes, the edges between them, and the variables with their first values.

Ids need not be unique; the first node of an id counts.
-/

namespace ChatFlow

namespace Flow

open Schema

/-- A step of a flow. -/
structure Node where
  id : String
  /-- The name of what the node does. -/
  kind : String
  data : Entries
  extra : Entries
deriving Repr

namespace Node

/-- The title of a node in reports. -/
def title : String := "FlowNode"

/-- Reads a node. -/
def read : Value → Checked Node :=
  record title fun es =>
    Node.mk <$> required es "id" text
      <*> required es "type" text
      <*> defaulted es "data" [] dict
      <*> .valid (extras es ["id", "type", "data"])

/-- The document of a node. -/
def toValue (n : Node) : Value :=
  .dict ([("id", .text n.id), ("type", .text n.kind), ("data", .dict n.data)] ++ n.extra)

/-- A setting of the node; null if it is not there. -/
def setting (n : Node) (key : String) : Value :=
  Entries.getD n.data key

end Node

/-- A transition between two nodes. -/
structure Edge where
  id : String
  source : String
  target : String
  /-- The branch of the source node that the edge leaves by. -/
  sourceHandle : Option String
  label : Option String
  extra : Entries
deriving Repr

namespace Edge

/-- The title of an edge in reports. -/
def title : String := "FlowEdge"

/-- Reads an edge. -/
def read : Value → Checked Edge :=
  record title fun es =>
    Edge.mk <$> required es "id" text
      <*> required es "source" text
      <*> required es "target" text
      <*> maybe es "sourceHandle" text
      <*> maybe es "label" text
      <*> .valid (extras es ["id", "source", "target", "sourceHandle", "label"])

/-- The document of an edge. -/
def toValue (e : Edge) : Value :=
  .dict ([
    ("id", .text e.id),
    ("source", .text e.source),
    ("target", .text e.target),
    ("sourceHandle", .ofText? e.sourceHandle),
    ("label", .ofText? e.label)] ++ e.extra)

end Edge

/-- A variable of a flow and its first value. -/
structure Variable where
  name : String
  defaultValue : Value
  extra : Entries
deriving Repr

namespace Variable

/-- The title of a variable in reports. -/
def title : String := "FlowVariable"

/-- Reads a variable. -/
def read : Value → Checked Variable :=
  record title fun es =>
    Variable.mk <$> required es "name" text
      <*> defaulted es "defaultValue" .null anything
      <*> .valid (extras es ["name", "defaultValue"])

/-- The document of a variable. -/
def toValue (v : Variable) : Value :=
  .dict ([("name", .text v.name), ("defaultValue", v.defaultValue)] ++ v.extra)

end Variable

end Flow

end ChatFlow
