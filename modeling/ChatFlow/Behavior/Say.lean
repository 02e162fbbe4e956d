import ChatFlow.Behavior.Basic
import ChatFlow.Template
import ChatFlow.Value.Number

/-!
Nodes that only speak, or end the flow: start, message, delay, handoff and end.

A delay never waits. It leaves a message that tells the channel how long to pause.
-/

namespace ChatFlow.Behavior

open ChatFlow.Flow (Node)

/-- A start node does nothing. -/
def start : Behavior := fun _ _ _ =>
  return .plain

/-- A message node says its text, with its places filled. -/
def message : Behavior := fun node context _ => do
  let content ← Service.ofExcept (Template.fillValue? context.scope (node.setting "content"))
  return .saying [.ofBot (← Service.now) content (some node.id)]

/-! ## Delays -/

/-- The component name of delays in the log. -/
def delayComponent : String := "DelayNodeExecutor"

/-- The seconds of a delay; none if the setting is no number. Less than no time counts as none. -/
def delaySeconds? (setting : Value) : Except Failure (Option Float) :=
  (setting.orElse (.int 0)).toNumber?.map fun x? => x?.map fun x => if x < 0 then 0 else x

/-- The message that asks a channel to pause. -/
def pauseMessage (now : Moment) (node : Node) (seconds : Float) : Message :=
  ⟨.system, "", now, some node.id,
    some [("type", .text "delay"), ("delay_seconds", .float seconds)]⟩

/-- A delay node asks the channel to pause. A setting that is no number is logged and passed over. -/
def delay : Behavior := fun node _ _ => do
  match ← Service.ofExcept (delaySeconds? (node.setting "delay")) with
  | none =>
    let _ ← Service.ofExcept (node.setting "delay").display?
    Service.warn delayComponent
    return .plain
  | some seconds =>
    if seconds ≤ 0 then return .plain
    return .saying [pauseMessage (← Service.now) node seconds]

/-! ## Ends -/

/-- What a handoff says if its author wrote nothing. -/
def handoffMessage : String := "Connecting you with a human agent..."

/-- The handoff that a node asks for. -/
def handoffOf? (node : Node) (context : Context) : Except Failure Handoff :=
  let metadata : Entries := [("node_id", .text node.id), ("flow_id", .text context.flowId),
    ("variables", context.scope)]
  (Handoff.read (.dict [
    ("reason", (node.setting "reason").orElse (.text Handoff.defaultReason)),
    ("priority", (node.setting "priority").orElse (.text Handoff.defaultPriority)),
    ("metadata", .dict metadata)])).toExcept Handoff.title

/-- A handoff node says a last text and hands the conversation over. -/
def handoff : Behavior := fun node context _ => do
  let content ← Service.ofExcept
    (Template.fillValue? context.scope ((node.setting "content").orElse (.text handoffMessage)))
  let handoff ← Service.ofExcept (handoffOf? node context)
  return { Outcome.plain with
    messages := [.ofBot (← Service.now) content (some node.id)]
    completed := true
    handoff := some handoff }

/-- An end node says its text, if it has one, and ends the flow. -/
def finish : Behavior := fun node context _ => do
  let content := node.setting "content"
  if content.isPresent then
    let content ← Service.ofExcept (Template.fillValue? context.scope content)
    return { Outcome.saying [.ofBot (← Service.now) content (some node.id)] with completed := true }
  return { Outcome.plain with completed := true }

end ChatFlow.Behavior
