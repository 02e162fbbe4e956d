import ChatFlow.Behavior.Registry
import ChatFlow.Flow.Definition

/-!
Walking through a flow for one turn.

A turn executes nodes one after another until a node wants a reply, the flow ends, something fails or
the bound on hops is reached. Only the first node gets the user's reply. `hop` is one step: it executes
the current node and either ends the turn or goes on; `takeTurn` repeats it. A turn never fails: what a
behavior throws becomes an outcome with an apology.
-/

namespace ChatFlow

namespace Turn

open ChatFlow.Flow (Node Definition)

/-- The component name of turns in the log. -/
def component : String := "StepExecutorService"

/-- What is said when a node failed or the bound on hops was reached. -/
def apology : String := "I'm sorry, I encountered an error. Please try again."

/-- What is said when the current node does not exist. -/
def missingNodeApology : String := "I'm sorry, something went wrong. Please try again."

/-- The state of a turn between two hops. -/
structure Walk where
  context : Context
  /-- The messages of the turn so far. -/
  messages : List Message
  /-- Every hop so far was a success. -/
  success : Bool
deriving Repr

/-- What a hop comes to. -/
inductive Hop where
  /-- The turn has ended. -/
  | ended (outcome : Outcome) (context : Context)
  /-- The walk goes on with the current node of its context. -/
  | goesOn (walk : Walk)
deriving Repr

namespace Walk

/-- A walk that has not begun. -/
def start (context : Context) : Walk := ⟨context, [], true⟩

/-- The outcome of a turn that went wrong: its messages and an apology. -/
def failure (w : Walk) (excuse : Message) (completed : Bool) (error : String) : Outcome :=
  { Outcome.plain with
    success := false
    messages := w.messages ++ [excuse]
    completed := completed
    error := some error }

/-- The walk with a node's outcome in it: variables set, messages said. -/
def absorb (w : Walk) (now : Moment) (o : Outcome) : Walk where
  context := { w.context with
    vars := Entries.update w.context.vars (o.vars.getD [])
    history := w.context.history ++ o.messages
    lastActivityAt := now }
  messages := w.messages ++ o.messages
  success := w.success && o.success

end Walk

/-- A text that is there and not empty. -/
def given? : Option String → Option String
  | some s => if s.isEmpty then none else some s
  | none => none

/-- The node that follows: the one that the outcome names, else the target of an edge. -/
def nextNode? (d : Definition) (node : Node) (o : Outcome) : Option String :=
  match given? o.nextNodeId with
  | some id => some id
  | none => given? ((d.edge? node.id o.sourceHandle).map (·.target))

/-- How the turn goes on after a node's outcome, which the walk has absorbed. -/
def settle (d : Definition) (node : Node) (w : Walk) (o : Outcome) : Hop :=
  if o.waitingForInput then
    .ended { Outcome.plain with success := w.success, messages := w.messages, waitingForInput := true }
      { w.context with currentNodeId := (given? o.nextNodeId).getD w.context.currentNodeId }
  else
    let ends := Hop.ended
      { Outcome.plain with
        success := w.success, messages := w.messages, completed := true, handoff := o.handoff }
      w.context
    if o.completed then ends
    else
      match nextNode? d node o with
      | some id => .goesOn { w with context := { w.context with currentNodeId := id } }
      | none => ends

/-- The walk with the user's reply in the history, if there is one. -/
def hear (w : Walk) (now : Moment) (node : Node) (reply : Option String) : Walk :=
  match given? reply with
  | some text => { w with context := w.context.say [.ofUser now text (some node.id)] }
  | none => w

/-- Executes the current node of a walk. -/
def hop (registry : Registry) (d : Definition) (reply : Option String) (w : Walk) :
    StateM Outside Hop := do
  let now := (← get).now
  match d.node? w.context.currentNodeId with
  | none =>
    Service.reportError component
    return .ended
      (w.failure (.ofBot now missingNodeApology none) true "Current node not found") w.context
  | some node =>
    let w := hear w now node reply
    let behavior ← registry.behavior node.kind
    match ← (behavior node w.context reply).run with
    | .error f =>
      Service.reportError component
      let error := if f.text.isEmpty then "Node execution failed" else f.text
      return .ended (w.failure (.ofBot now apology (some node.id)) false error) w.context
    | .ok o =>
      if !o.success then Service.warn component
      return settle d node (w.absorb now o) o

/-- Executes at most so many nodes. -/
def hops (registry : Registry) (d : Definition) :
    Nat → Option String → Walk → StateM Outside (Outcome × Context)
  | 0, _, w => do
    Service.reportError component
    let excuse := Message.ofBot (← get).now apology none
    return (w.failure excuse false "Maximum hop count exceeded", w.context)
  | n + 1, reply, w => do
    match ← hop registry d reply w with
    | .ended o c => return (o, c)
    | .goesOn w => hops registry d n none w

/-- Executes one turn: its outcome, and the context it leaves. -/
def takeTurn (registry : Registry) (maxHops : Nat) (d : Definition) (context : Context)
    (reply : Option String) : StateM Outside (Outcome × Context) :=
  hops registry d maxHops reply (.start context)

end Turn

end ChatFlow
