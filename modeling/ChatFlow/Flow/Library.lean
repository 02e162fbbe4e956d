import ChatFlow.Store.FlowAccess

/-!
Definitions, loaded from the store and kept in memory.

A request names a flow and perhaps a version. Without a version the current one of the flow is meant,
or else its highest. What was loaded is kept until somebody who edits the flow has it dropped.
-/

namespace ChatFlow

open ChatFlow.Flow (Record Version Definition)

namespace Library

/-- The component name of the library in the log. -/
def component : String := "FlowDefinitionService"

/-- The key under which the definition for a request is kept. -/
def key (flowId : String) (versionId : Option String) : String :=
  flowId ++ ":" ++ match versionId with
    | some v => if v.isEmpty then "current" else v
    | none => "current"

/-- The key belongs to a flow. -/
def isKeyOf (flowId key : String) : Bool :=
  (flowId.toList ++ [':']).isPrefixOf key.toList

/-- A text that is there and not empty. -/
def named? : Option String → Option String
  | some s => if s.isEmpty then none else some s
  | none => none

/-- The version that a request for a flow means. -/
def resolveVersion (flow : Record) (flowId : String) (versionId : Option String) :
    Operation (Option Version) :=
  match named? versionId with
  | some id => Operation.getVersion id
  | none =>
    match named? flow.currentVersionId with
    | some id => Operation.getVersion id
    | none => Operation.getLatestVersion flowId

/-- Loads a definition from the store. The version has to belong to the flow that was asked for. -/
def fetch (flowId : String) (versionId : Option String) : Operation (Option Definition) := do
  match ← Operation.getFlow flowId with
  | none => return none
  | some flow =>
    match ← resolveVersion flow flowId versionId with
    | none => return none
    | some version =>
      return if version.flowId == flowId then some ⟨flow, version⟩ else none

/-- The definition for a request, from memory or else from the store. -/
def load (flowId : String) (versionId : Option String) : Operation (Option Definition) := do
  match (← get).cache.lookup (key flowId versionId) with
  | some d => return some d
  | none =>
    match ← fetch flowId versionId with
    | some d =>
      modify fun w => { w with cache := w.cache ++ [(key flowId versionId, d)] }
      return some d
    | none =>
      World.warn component
      return none

/-- Drops what is kept for a flow; gives the number of definitions dropped. -/
def invalidate (flowId : String) : StateM World Nat := do
  let w ← get
  set { w with cache := w.cache.filter fun (k, _) => !isKeyOf flowId k }
  return (w.cache.filter fun (k, _) => isKeyOf flowId k).length

/-- Drops everything that is kept. -/
def clear : StateM World Unit :=
  modify fun w => { w with cache := [] }

end Library

end ChatFlow
