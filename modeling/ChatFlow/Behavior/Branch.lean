import ChatFlow.Behavior.Basic
import ChatFlow.Flow.Rule

/-!
Condition nodes: the first rule that holds chooses the branch; if none does, the default is taken. A
condition says nothing.
-/

namespace ChatFlow.Behavior

open ChatFlow.Flow (Node Rule)

namespace Branch

/-- The component name of conditions in the log. -/
def component : String := "ConditionNodeExecutor"

/-- The rules of a condition. -/
def rules? (node : Node) : Except Failure (List Rule) :=
  match (node.setting "conditions").elementsIfPresent? with
  | .error f => .error f
  | .ok vs =>
    (readEach? Rule.title Rule.read vs).mapError
      (asNodeFailure node.id "conditions on condition")

/-- Whether a rule holds. A broken pattern and an unknown operator are logged. -/
def evaluate (rule : Rule) (scope : Value) : Service Bool := do
  let verdict ← Service.ofExcept (rule.judge? scope)
  match verdict with
  | .brokenPattern => Service.reportError component
  | .unknownOperator => Service.warn component
  | .holds | .fails => pure ()
  return verdict.toBool

/-- The first rule that holds; it is logged, for which its value has to have a text. -/
def firstHolding (scope : Value) : List Rule → Service (Option Rule)
  | [] => return none
  | rule :: rest => do
    if ← evaluate rule scope then
      let _ ← Service.ofExcept rule.value.display?
      return some rule
    firstHolding scope rest

/-- The node that is taken when no rule holds. -/
def defaultNext? (node : Node) : Except Failure (Option String) :=
  (Schema.nullable Schema.text (node.setting "defaultNextNodeId")).under (.name "next_node_id")
    |>.toExcept Outcome.title

end Branch

open Branch

/-- A condition node names the branch to take. -/
def condition : Behavior := fun node context _ => do
  let rules ← Service.ofExcept (rules? node)
  match ← firstHolding context.scope rules with
  | some rule =>
    return { Outcome.plain with nextNodeId := rule.nextNodeId, sourceHandle := rule.id }
  | none =>
    let next ← Service.ofExcept (defaultNext? node)
    return { Outcome.plain with nextNodeId := next, sourceHandle := some "default" }

end ChatFlow.Behavior
