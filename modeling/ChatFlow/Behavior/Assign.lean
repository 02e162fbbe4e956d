import ChatFlow.Behavior.Basic
import ChatFlow.Flow.NodeSettings
import ChatFlow.Json.Reader
import ChatFlow.Template
import ChatFlow.Value.Number

/-!
Nodes that set a variable.

A text has its places filled first. Then the value is brought to the declared sort: a number by its
text, a truth value by comparison with true, a list or a dictionary by reading JSON. What cannot be
brought there becomes null, false, a list of the text, or an empty dictionary.
-/

namespace ChatFlow.Behavior

open ChatFlow.Flow (Node Assignment)

namespace Assign

/-- A number; one without a fraction becomes an integer. -/
def numberValue (x : Float) : Value :=
  match Decimal.whole? x with
  | some n => .int n
  | none => .float x

/-- The value as a number, or null. -/
def toNumberValue? (v : Value) : Except Failure Value :=
  v.toNumber?.map fun x? => (x?.map numberValue).getD .null

/-- The value is true, or the text of it. -/
def isTrue : Value → Bool
  | .bool b => b
  | .text s => s == "true"
  | _ => false

/-- The JSON document in a text, or `fallback`. An integer with too many digits is a fault. -/
def documentOr? (fallback : Value) (s : String) : Except Failure Value :=
  match Json.parse s with
  | .ok v => .ok v
  | .error (.broken _) => .ok fallback
  | .error (.tooLong digits) => .error (.numeralTooLong digits)

/-- The value brought to the declared sort. -/
def coerce? (v : Value) (sort : Option String) : Except Failure Value :=
  match sort, v with
  | some "number", v => toNumberValue? v
  | some "boolean", v => .ok (.bool (isTrue v))
  | some "array", .text s => documentOr? (.list [.text s]) s
  | some "object", .text s => documentOr? (.dict []) s
  | _, v => .ok v

/-- A text with its places filled; any other value as it is. -/
def filled? (scope : Value) : Value → Except Failure Value
  | .text s => (Template.fill? scope s).map .text
  | v => .ok v

end Assign

open Assign

/-- A node that sets a variable; without a setting it does nothing. -/
def setVariable : Behavior := fun node context _ => do
  let setting := node.setting "variable"
  if !setting.isPresent then return .plain
  let assignment ← Service.ofExcept ((Assignment.read setting).toExcept Assignment.title)
  let value ← Service.ofExcept (filled? context.scope assignment.value)
  let value ← Service.ofExcept (coerce? value assignment.sort)
  return .setting [(assignment.name, value)]

end ChatFlow.Behavior
