import ChatFlow.Behavior.Act
import ChatFlow.Behavior.Answer
import ChatFlow.Behavior.Ask
import ChatFlow.Behavior.Assign
import ChatFlow.Behavior.Branch
import ChatFlow.Behavior.Fetch
import ChatFlow.Behavior.Say

/-!
Which node does what.

A registry maps the kind of a node to its behavior. A kind that is not registered behaves like a
message, with a warning.
-/

namespace ChatFlow

/-- The behaviors of the kinds of nodes. -/
structure Registry where
  behaviors : List (String × Behavior)
  /-- The behavior of a kind that is not registered. -/
  fallback : Behavior

/-- The services that behaviors use. -/
structure Services where
  generator : TextGenerator
  leads : LeadService
  apiTimeout : Quantity
  webhookTimeout : Quantity
deriving Repr

namespace Registry

/-- The component name of the registry in the log. -/
def component : String := "NodeExecutorRegistry"

/-- The registry of the built-in kinds. -/
def standard (s : Services) : Registry where
  behaviors := [
    ("start", Behavior.start),
    ("message", Behavior.message),
    ("question", Behavior.question),
    ("condition", Behavior.condition),
    ("ai_answer", Behavior.answer s.generator),
    ("action", Behavior.act ⟨s.leads, s.webhookTimeout⟩),
    ("set_variable", Behavior.setVariable),
    ("delay", Behavior.delay),
    ("api_call", Behavior.fetch s.apiTimeout),
    ("handoff", Behavior.handoff),
    ("end", Behavior.finish)]
  fallback := Behavior.message

/-- The registry with one more behavior, which replaces an earlier one of its kind. -/
def register (r : Registry) (kind : String) (b : Behavior) : Registry :=
  { r with behaviors := (kind, b) :: r.behaviors }

/-- The behavior of a kind; a warning is written if it is not registered. -/
def behavior (r : Registry) (kind : String) : StateM Outside Behavior := do
  match r.behaviors.lookup kind with
  | some b => return b
  | none =>
    Service.warn component
    return r.fallback

end Registry

end ChatFlow
