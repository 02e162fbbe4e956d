import ChatFlow.Flow.Trigger
import ChatFlow.Flow.Graph

/-!
Flows as they are stored, and the pair that is executed.

A flow record says who owns the flow, what starts it and which of its versions is current. A version is
a graph that never changes: every edit makes a new one. A `Definition` is a flow with one version,
ready for execution; on it transitions are looked up.
-/

namespace ChatFlow

namespace Flow

open Schema

/-- A point in time or null. -/
def momentValue : Option Moment → Value
  | some m => .date m
  | none => .null

/-- The record of a flow. -/
structure Record where
  id : Option String
  workspaceId : String
  botId : String
  name : String
  triggers : List Trigger
  status : String
  isPublished : Bool
  currentVersionId : Option String
  totalRuns : Int
  successfulRuns : Int
  createdAt : Option Moment
  updatedAt : Option Moment
deriving Repr

namespace Record

/-- The title of a flow record in reports. -/
def title : String := "FlowData"

/-- Reads a flow record. -/
def read (now : Moment) : Value → Checked Record :=
  record title fun es =>
    Record.mk <$> maybe es "id" text
      <*> required es "workspace_id" text
      <*> required es "bot_id" text
      <*> required es "name" text
      <*> defaulted es "triggers" [] (items Trigger.read)
      <*> defaulted es "status" "draft" text
      <*> defaulted es "is_published" false truth
      <*> maybe es "current_version_id" text
      <*> defaulted es "total_runs" 0 integer
      <*> defaulted es "successful_runs" 0 integer
      <*> defaulted es "created_at" (some now) (nullable moment)
      <*> defaulted es "updated_at" (some now) (nullable moment)

/-- The document of a flow record. -/
def toValue (r : Record) : Value :=
  .dict [
    ("id", .ofText? r.id),
    ("workspace_id", .text r.workspaceId),
    ("bot_id", .text r.botId),
    ("name", .text r.name),
    ("triggers", .list (r.triggers.map Trigger.toValue)),
    ("status", .text r.status),
    ("is_published", .bool r.isPublished),
    ("current_version_id", .ofText? r.currentVersionId),
    ("total_runs", .int r.totalRuns),
    ("successful_runs", .int r.successfulRuns),
    ("created_at", momentValue r.createdAt),
    ("updated_at", momentValue r.updatedAt)]

end Record

/-- A version of a flow. -/
structure Version where
  id : Option String
  flowId : String
  version : Int
  nodes : List Node
  edges : List Edge
  vars : List Variable
  createdAt : Option Moment
deriving Repr

namespace Version

/-- The title of a version in reports. -/
def title : String := "FlowVersionData"

/-- Reads a version. -/
def read (now : Moment) : Value → Checked Version :=
  record title fun es =>
    Version.mk <$> maybe es "id" text
      <*> required es "flow_id" text
      <*> required es "version" integer
      <*> defaulted es "nodes" [] (items Node.read)
      <*> defaulted es "edges" [] (items Edge.read)
      <*> defaulted es "variables" [] (items Variable.read)
      <*> defaulted es "created_at" (some now) (nullable moment)

/-- The document of a version. -/
def toValue (v : Version) : Value :=
  .dict [
    ("id", .ofText? v.id),
    ("flow_id", .text v.flowId),
    ("version", .int v.version),
    ("nodes", .list (v.nodes.map Node.toValue)),
    ("edges", .list (v.edges.map Edge.toValue)),
    ("variables", .list (v.vars.map Variable.toValue)),
    ("created_at", momentValue v.createdAt)]

end Version

/-- A flow bound to one of its versions. -/
structure Definition where
  flow : Record
  version : Version
deriving Repr

namespace Definition

/-- The title of a definition in reports. -/
def title : String := "FlowDefinition"

/-- Reads a definition. -/
def read (now : Moment) : Value → Checked Definition :=
  record title fun es =>
    Definition.mk <$> required es "flow" (Record.read now)
      <*> required es "version" (Version.read now)

/-- The document of a definition. -/
def toValue (d : Definition) : Value :=
  .dict [("flow", d.flow.toValue), ("version", d.version.toValue)]

/-! ## Looking up the graph -/

/-- The first node of this id; the empty id names no node. -/
def node? (d : Definition) (id : String) : Option Node :=
  if id.isEmpty then none else d.version.nodes.find? (·.id == id)

/-- The first start node, or the first node at all. -/
def startNode? (d : Definition) : Option Node :=
  (d.version.nodes.find? (·.kind == "start")).or d.version.nodes.head?

/-- The edges that leave a node, in order. -/
def outgoing (d : Definition) (id : String) : List Edge :=
  d.version.edges.filter (·.source == id)

/-- The edge by which a node is left: the first of the given branch if a branch is named and has one,
else the first of all. -/
def edge? (d : Definition) (id : String) (handle : Option String) : Option Edge :=
  let edges := d.outgoing id
  match handle with
  | some h =>
    if h.isEmpty then edges.head?
    else (edges.find? (·.sourceHandle == some h)).or edges.head?
  | none => edges.head?

/-- The variables of the version with their first values; of several of one name the last counts. -/
def firstValues (d : Definition) : Entries :=
  Entries.update [] (d.version.vars.map fun v => (v.name, v.defaultValue))

end Definition

end Flow

end ChatFlow
