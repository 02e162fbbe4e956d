import ChatFlow.Schema.Scalar

/-!
What nodes are told by their authors: the options of a question, the rules of a condition, the actions
of an action node, the settings of an answer, an assignment and a call to another service.

Each is a record inside the data of a node and keeps the entries that it does not use.
-/

namespace ChatFlow

namespace Flow

open Schema

/-- An answer that a question offers. -/
structure Choice where
  id : String
  label : String
  value : String
  nextNodeId : Option String
  extra : Entries
deriving Repr

namespace Choice

/-- The title of an option in reports. -/
def title : String := "QuestionOption"

/-- Reads an option. -/
def read : Value → Checked Choice :=
  record title fun es =>
    Choice.mk <$> required es "id" text
      <*> required es "label" text
      <*> required es "value" text
      <*> maybe es "nextNodeId" text
      <*> .valid (extras es ["id", "label", "value", "nextNodeId"])

/-- The document of an option. -/
def toValue (c : Choice) : Value :=
  .dict ([
    ("id", .text c.id),
    ("label", .text c.label),
    ("value", .text c.value),
    ("nextNodeId", .ofText? c.nextNodeId)] ++ c.extra)

end Choice

/-- A rule of a condition: a variable held against a value. -/
structure Rule where
  id : Option String
  /-- The path of the variable. -/
  variableName : String
  operator : String
  value : Value
  nextNodeId : Option String
  extra : Entries
deriving Repr

namespace Rule

/-- The title of a rule in reports. -/
def title : String := "ConditionRule"

/-- Reads a rule. -/
def read : Value → Checked Rule :=
  record title fun es =>
    Rule.mk <$> maybe es "id" text
      <*> required es "variable" text
      <*> required es "operator" text
      <*> defaulted es "value" .null anything
      <*> maybe es "nextNodeId" text
      <*> .valid (extras es ["id", "variable", "operator", "value", "nextNodeId"])

/-- The document of a rule. -/
def toValue (r : Rule) : Value :=
  .dict ([
    ("id", .ofText? r.id),
    ("variable", .text r.variableName),
    ("operator", .text r.operator),
    ("value", r.value),
    ("nextNodeId", .ofText? r.nextNodeId)] ++ r.extra)

end Rule

/-- Something an action node does. -/
structure Action where
  kind : String
  config : Entries
  extra : Entries
deriving Repr

namespace Action

/-- The title of an action in reports. -/
def title : String := "ActionConfig"

/-- Reads an action. -/
def read : Value → Checked Action :=
  record title fun es =>
    Action.mk <$> required es "type" text
      <*> defaulted es "config" [] dict
      <*> .valid (extras es ["type", "config"])

/-- The document of an action. -/
def toValue (a : Action) : Value :=
  .dict ([("type", .text a.kind), ("config", .dict a.config)] ++ a.extra)

/-- A setting of the action; null if it is not there. -/
def setting (a : Action) (key : String) : Value :=
  Entries.getD a.config key

end Action

/-- How an answer is generated. -/
structure Generation where
  model : Option String
  temperature : Option Float
  maxTokens : Option Int
  systemPrompt : Option String
  fallbackMessage : Option String
  extra : Entries
deriving Repr

namespace Generation

/-- The title of these settings in reports. -/
def title : String := "AIConfig"

/-- Reads the settings. -/
def read : Value → Checked Generation :=
  record title fun es =>
    Generation.mk <$> maybe es "model" text
      <*> maybe es "temperature" number
      <*> maybe es "maxTokens" integer
      <*> maybe es "systemPrompt" text
      <*> maybe es "fallbackMessage" text
      <*> .valid (extras es
        ["model", "temperature", "maxTokens", "systemPrompt", "fallbackMessage"])

/-- The document of the settings. -/
def toValue (g : Generation) : Value :=
  .dict ([
    ("model", .ofText? g.model),
    ("temperature", (g.temperature.map Value.float).getD .null),
    ("maxTokens", (g.maxTokens.map Value.int).getD .null),
    ("systemPrompt", .ofText? g.systemPrompt),
    ("fallbackMessage", .ofText? g.fallbackMessage)] ++ g.extra)

end Generation

/-- A variable that is set to a value of a declared sort. -/
structure Assignment where
  name : String
  value : Value
  /-- The declared sort of the value. -/
  sort : Option String
  extra : Entries
deriving Repr

namespace Assignment

/-- The title of an assignment in reports. -/
def title : String := "VariableConfig"

/-- The sorts that may be declared. -/
def sorts : List String := ["string", "number", "boolean", "array", "object"]

/-- Reads an assignment. -/
def read : Value → Checked Assignment :=
  record title fun es =>
    Assignment.mk <$> required es "name" text
      <*> defaulted es "value" .null anything
      <*> defaulted es "type" (some "string") (nullable (oneOf sorts))
      <*> .valid (extras es ["name", "value", "type"])

/-- The document of an assignment. -/
def toValue (a : Assignment) : Value :=
  .dict ([("name", .text a.name), ("value", a.value), ("type", .ofText? a.sort)] ++ a.extra)

end Assignment

/-- A request to another service. -/
structure Request where
  url : String
  method : String
  headers : Option Entries
  body : Option Entries
  responseVariable : Option String
  extra : Entries
deriving Repr

namespace Request

/-- The title of a request in reports. -/
def title : String := "APIConfig"

/-- The methods of a request. -/
def methods : List String := ["GET", "POST", "PUT", "PATCH", "DELETE"]

/-- Reads a request. -/
def read : Value → Checked Request :=
  record title fun es =>
    Request.mk <$> required es "url" text
      <*> defaulted es "method" "GET" (oneOf methods)
      <*> maybe es "headers" dict
      <*> maybe es "body" dict
      <*> maybe es "responseVariable" text
      <*> .valid (extras es ["url", "method", "headers", "body", "responseVariable"])

/-- The document of a request. -/
def toValue (r : Request) : Value :=
  .dict ([
    ("url", .text r.url),
    ("method", .text r.method),
    ("headers", (r.headers.map Value.dict).getD .null),
    ("body", (r.body.map Value.dict).getD .null),
    ("responseVariable", .ofText? r.responseVariable)] ++ r.extra)

end Request

end Flow

end ChatFlow
