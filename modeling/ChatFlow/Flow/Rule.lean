import ChatFlow.Flow.NodeSettings
import ChatFlow.Path
import ChatFlow.Pattern.Parser
import ChatFlow.Text.Lowercase
import ChatFlow.Text.Search
import ChatFlow.Value.Display
import ChatFlow.Value.Number

/-!
Holding a variable against a value.

Equality and containment compare the texts that the two values would put into a message; order compares
numbers. A missing variable has rules of its own: it equals null and the empty text, contains nothing,
is empty, and matches no pattern. `Rule.judge?` gives the verdict, and tells a broken pattern and an
unknown operator from a rule that merely does not hold.
-/

namespace ChatFlow.Flow

/-- How a rule compares. -/
inductive Operator where
  | equals
  | notEquals
  | contains
  | notContains
  | greaterThan
  | lessThan
  | isEmpty
  | isNotEmpty
  | matchesPattern
deriving Repr, DecidableEq

namespace Operator

/-- The word for an operator. -/
def word : Operator → String
  | equals => "equals"
  | notEquals => "not_equals"
  | contains => "contains"
  | notContains => "not_contains"
  | greaterThan => "greater_than"
  | lessThan => "less_than"
  | isEmpty => "is_empty"
  | isNotEmpty => "is_not_empty"
  | matchesPattern => "matches_regex"

/-- All operators. -/
def all : List Operator :=
  [equals, notEquals, contains, notContains, greaterThan, lessThan, isEmpty, isNotEmpty,
    matchesPattern]

/-- The operator named by a word. -/
def ofWord? (w : String) : Option Operator :=
  all.find? fun o => o.word == w

end Operator

/-- The verdict on a rule. -/
inductive Verdict where
  | holds
  | fails
  /-- The pattern cannot be read. -/
  | brokenPattern
  | unknownOperator
deriving Repr, DecidableEq

namespace Verdict

/-- The verdict for a truth value. -/
def ofBool (b : Bool) : Verdict :=
  if b then holds else fails

/-- Only a rule that holds is taken. -/
def toBool : Verdict → Bool
  | holds => true
  | _ => false

end Verdict

/-! ## Comparisons -/

/-- The value is null. -/
def isNull : Value → Bool
  | .null => true
  | _ => false

/-- The two values put the same text into a message; a missing left one equals null and the empty
text. -/
def equals? (value other : Value) : Except Failure Bool :=
  if isNull value then .ok (isNull other || other.isText "")
  else do return (← value.fill?) == (← other.fill?)

/-- The two values put different texts into a message; a missing left one differs from all but null and the empty
text. -/
def differs? (value other : Value) : Except Failure Bool :=
  if isNull value then .ok (!isNull other && !other.isText "")
  else do return (← value.fill?) != (← other.fill?)

/-- The text of the left value has the text of the right one inside, case aside; nothing is inside a
missing value, and a missing value inside none. -/
def contains? (value other : Value) : Except Failure Bool :=
  if isNull value || isNull other then .ok false
  else do
    let needle ← other.fill?
    let text ← value.fill?
    return Text.occursIn (Text.lowerChars needle.toList) (Text.lowerChars text.toList)

/-- The text of the left value does not have the text of the right one inside, case aside; a missing value lacks
everything, and every value lacks a missing one. -/
def lacks? (value other : Value) : Except Failure Bool :=
  if isNull value || isNull other then .ok true
  else do
    let needle ← other.fill?
    let text ← value.fill?
    return !Text.occursIn (Text.lowerChars needle.toList) (Text.lowerChars text.toList)

theorem differs?_eq (value other : Value) : differs? value other = (equals? value other).map (!·) := by
  unfold differs? equals?
  split
  · simp [Except.map]
  · cases value.fill? with
    | error f => rfl
    | ok s => cases other.fill? <;> rfl

theorem lacks?_eq (value other : Value) : lacks? value other = (contains? value other).map (!·) := by
  unfold lacks? contains?
  split
  · rfl
  · cases other.fill? with
    | error f => rfl
    | ok needle => cases value.fill? <;> rfl

/-- Both values stand for numbers, and these are related. -/
def compare? (related : Float → Float → Bool) (value other : Value) : Except Failure Bool := do
  let x? ← value.toNumber?
  let y? ← other.toNumber?
  match x?, y? with
  | some x, some y => return related x y
  | _, _ => return false

/-- The value is null, the empty text or the empty list. -/
def isBlank : Value → Bool
  | .null => true
  | .text s => s.isEmpty
  | .list items => items.isEmpty
  | _ => false

/-- The failure of a pattern that is not merely broken. -/
def patternFailure? : Pattern.Fault → Option Failure
  | .malformed => none
  | .countTooLarge => some .repetitionTooLarge
  | .countTooLong digits => some (.numeralTooLong digits)
  | .contradictingSwitches => some .contradictingSwitches

/-- The text of the value matches the pattern. -/
def matches? (value pattern : Value) : Except Failure Verdict :=
  if isNull value || !pattern.isPresent then .ok .fails
  else do
    let pattern ← pattern.display?
    let text ← value.fill?
    match Pattern.search? pattern text with
    | .ok found => return .ofBool found
    | .error fault =>
      match patternFailure? fault with
      | none => return .brokenPattern
      | some f => throw f

/-- The verdict of an operator on two values. -/
def Operator.judge? (o : Operator) (value other : Value) : Except Failure Verdict :=
  match o with
  | equals => (equals? value other).map .ofBool
  | notEquals => (differs? value other).map .ofBool
  | contains => (contains? value other).map .ofBool
  | notContains => (lacks? value other).map .ofBool
  | greaterThan => (compare? (fun x y => decide (y < x)) value other).map .ofBool
  | lessThan => (compare? (fun x y => decide (x < y)) value other).map .ofBool
  | isEmpty => .ok (.ofBool (isBlank value))
  | isNotEmpty => .ok (.ofBool !(isBlank value))
  | matchesPattern => matches? value other

/-- The verdict on a rule, for the given variables. -/
def Rule.judge? (rule : Rule) (scope : Value) : Except Failure Verdict := do
  let value ← Path.find? scope rule.variableName
  match Operator.ofWord? rule.operator with
  | some o => o.judge? value rule.value
  | none => return .unknownOperator

end ChatFlow.Flow
