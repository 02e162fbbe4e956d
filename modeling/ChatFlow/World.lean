import ChatFlow.Flow.Definition
import ChatFlow.Outside
import ChatFlow.Store.Fault

/-!
Everything that the service works on: what is outside, the store with the faults that wait in it, the
connection to the store, and the definitions kept in memory.

An `Operation` works on the world and may fail; what it did before it failed remains done. Every access
to the store goes through `Operation.access`, which lets faults strike, and each is one atomic step.
-/

namespace ChatFlow

/-- The state of the service and of all that it uses. -/
structure World where
  outside : Outside
  store : Store
  faults : List Fault
  /-- The client of the store exists. -/
  connected : Bool
  /-- Definitions in memory, by flow and requested version. -/
  cache : List (String × Flow.Definition)
deriving Repr

/-- An activity on the world that may fail. -/
abbrev Operation := ExceptT Failure (StateM World)

namespace World

/-- The present time. -/
def now (w : World) : Moment := w.outside.now

/-- Does to the outside what an activity there does. -/
def onOutside {α : Type} (x : StateM Outside α) : StateM World α := fun w =>
  let (a, outside) := x w.outside
  (a, { w with outside })

/-- Writes a warning. -/
def warn (component : String) : StateM World Unit :=
  onOutside (Service.warn component)

/-- Writes an error. -/
def reportError (component : String) : StateM World Unit :=
  onOutside (Service.reportError component)

end World

namespace Operation

/-- Gives a value or fails. -/
def ofExcept {α : Type} : Except Failure α → Operation α
  | .ok a => pure a
  | .error f => throw f

/-- The present time. -/
def now : Operation Moment := do
  return (← get).now

/-- The result of an operation, or its failure, as a value. -/
def attempt {α : Type} (x : Operation α) : Operation (Except Failure α) :=
  ExceptT.lift x.run

/-- Lets the first fault that waits for an access strike. The result tells that the access is to find
nothing. -/
def disturb (a : Access) (c : Option Collection) : Operation Bool := do
  let w ← get
  match Fault.strike? a c w.faults with
  | none => return false
  | some (fault, faults) =>
    let store :=
      match fault.before with
      | some (c, doc) => w.store.put c doc
      | none => w.store
    set { w with faults, store }
    match fault.effect with
    | .none => return false
    | .fails cause => throw cause
    | .misses => return true

/-- Makes sure that the store has a client. Its creation may fail. -/
def connect : Operation Unit := do
  if !(← get).connected then
    let _ ← disturb .connect none
    modify fun w => { w with connected := true }

/-- Reads the store in one step; an access that misses gives `default`. -/
def read {α : Type} (a : Access) (c : Collection) (default : α) (f : Store → α) : Operation α := do
  if ← disturb a (some c) then return default
  return f (← get).store

/-- Changes the store in one step; an access that misses changes nothing and gives `default`. -/
def write {α : Type} (a : Access) (c : Collection) (default : α)
    (f : Store → Except Failure (α × Store)) : Operation α := do
  if ← disturb a (some c) then return default
  let (result, store) ← ofExcept (f (← get).store)
  modify fun w => { w with store }
  return result

end Operation

end ChatFlow
