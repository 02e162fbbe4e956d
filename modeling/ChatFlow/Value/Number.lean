import ChatFlow.Failure
import ChatFlow.Value
import ChatFlow.Decimal.Numeral
import ChatFlow.Decimal.Binary

/-!
Values as numbers, and values as sequences.

A truth value counts as 0 or 1, a text counts as the number it spells, and what is no number at all
counts as none. An integer beyond all floating-point numbers is a fault. A list gives its items, a
dictionary its keys and a text its characters; nothing else can be gone through.
-/

namespace ChatFlow.Value

/-- The number that a value stands for, if it stands for one. -/
def toNumber? : Value → Except Failure (Option Float)
  | bool b => .ok (some (if b then 1 else 0))
  | int n =>
    match Decimal.ofInt? n with
    | some x => .ok (some x)
    | none => .error .integerTooLarge
  | float x => .ok (some x)
  | text s => .ok (Decimal.readNumber? s)
  | _ => .ok none

/-- What a value consists of, one after another. -/
def elements? : Value → Except Failure (List Value)
  | list items => .ok items
  | dict entries => .ok (entries.map fun (k, _) => text k)
  | text s => .ok (s.toList.map fun c => text (String.singleton c))
  | v => .error (.notIterable v.sortName)

/-- What a value consists of; nothing if it counts as absent. -/
def elementsIfPresent? (v : Value) : Except Failure (List Value) :=
  if v.isPresent then v.elements? else .ok []

end ChatFlow.Value
