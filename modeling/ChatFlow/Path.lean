import ChatFlow.Value
import ChatFlow.Failure
import ChatFlow.Decimal.Numeral

/-!
Dotted paths into a value, such as `order.items[0].name`.

A path is a sequence of steps between points. A step names an entry; if it ends in a number in
brackets it then takes the item of that number from the list found there. `Path.find?` walks the steps
from left to right. Where an entry is absent, a number lies beyond the end of a list or a value is of
the wrong sort, the walk arrives at null, and from null every step leads to null.
-/

namespace ChatFlow.Path

/-- One step of a path. -/
inductive Step where
  /-- The entry of this name. -/
  | entry (name : String)
  /-- The item with this number, given by its digits, of the list under this name. -/
  | item (name : String) (digits : List Nat)
deriving Repr, DecidableEq

/-! ## Reading a path -/

/-- The pieces between the occurrences of a separator; there is always at least one. -/
def splitAt (separator : Char) : List Char → List (List Char)
  | [] => [[]]
  | c :: rest =>
    if c == separator then [] :: splitAt separator rest
    else
      match splitAt separator rest with
      | [] => [[c]]
      | piece :: pieces => (c :: piece) :: pieces

/-- The digits of a number in brackets that ends a step. A line feed may still follow. -/
def bracketed? (cs : List Char) : Option (List Nat) :=
  match cs with
  | '[' :: rest =>
    match (rest.takeWhile Text.isDecimal).filterMap Text.decimalValue?,
        rest.dropWhile Text.isDecimal with
    | d :: ds, [']'] => some (d :: ds)
    | d :: ds, [']', '\n'] => some (d :: ds)
    | _, _ => none
  | _ => none

/-- The step written by a piece of a path: an entry, unless a name is followed by a number in brackets. -/
def Step.ofChars (cs : List Char) : Step :=
  let name := cs.takeWhile (· != '[')
  match name, bracketed? (cs.dropWhile (· != '[')) with
  | _ :: _, some digits => .item (String.ofList name) digits
  | _, _ => .entry (String.ofList cs)

/-- The steps of a path. -/
def steps (path : String) : List Step :=
  (splitAt '.' path.toList).map Step.ofChars

/-! ## Walking -/

/-- Where a step leads. An item number with too many digits is a fault, if there is a list at all. -/
def Step.follow? (current : Value) : Step → Except Failure Value
  | .entry name => .ok (current.entry name)
  | .item name digits =>
    match current.entry name with
    | .list items =>
      if digits.length > Decimal.digitLimit then .error (.numeralTooLong digits.length)
      else .ok (items.getD (Decimal.ofDigits digits) .null)
    | _ => .ok .null

/-- Follows the steps one after another. -/
def walk? (current : Value) : List Step → Except Failure Value
  | [] => .ok current
  | s :: rest =>
    match s.follow? current with
    | .ok next => walk? next rest
    | .error f => .error f

/-- What a path leads to; null if it leads nowhere. -/
def find? (data : Value) (path : String) : Except Failure Value :=
  walk? data (steps path)

end ChatFlow.Path
