import ChatFlow.Json.Writer

/-!
Values in running text.

`Value.inspect` is the form in which a value is shown as part of another: texts in quotes, lists in
brackets, entries in braces, `None`, `True` and `False` for null and the truth values.
`Value.display?` is the form in which a whole value is shown: a text then stands as it is.
`Value.fill?` is the form in which a value fills a place in a message: null is nothing, truth values are
in lower case, a whole number has no point, and lists and dictionaries are JSON.
-/

namespace ChatFlow

namespace Moment

/-- The moment by its parts, seconds and microseconds only as far as they are needed. -/
def partsText (m : Moment) : String :=
  let d := m.date
  let seconds := m.timeOfDay / perSecond
  let fraction := m.timeOfDay % perSecond
  let parts := [d.year, d.month, d.day, seconds / 3600, seconds / 60 % 60]
    ++ (if seconds % 60 == 0 && fraction == 0 then [] else [seconds % 60])
    ++ (if fraction == 0 then [] else [fraction])
  "datetime.datetime(" ++ ", ".intercalate (parts.map toString) ++ ")"

end Moment

namespace Value

mutual

/-- A value as part of another. -/
def inspect : Value → String
  | null => "None"
  | bool b => if b then "True" else "False"
  | int n => toString n
  | float x => Decimal.numberText x
  | text s => Text.quoted s
  | list items => "[" ++ inspectItems true items ++ "]"
  | dict entries => "\x7b" ++ inspectEntries true entries ++ "\x7d"
  | date m => m.partsText
  | recordId hex => "ObjectId('" ++ hex ++ "')"

/-- The items of a list; a separator goes before each but the first. -/
def inspectItems (first : Bool) : List Value → String
  | [] => ""
  | v :: rest => (if first then "" else ", ") ++ inspect v ++ inspectItems false rest

/-- The entries of a dictionary; a separator goes before each but the first. -/
def inspectEntries (first : Bool) : List (String × Value) → String
  | [] => ""
  | (k, v) :: rest =>
    (if first then "" else ", ") ++ Text.quoted k ++ ": " ++ inspect v ++ inspectEntries false rest

end

/-- A whole value, unless it holds an integer with too many digits. -/
def display? (v : Value) : Except Failure String :=
  match Json.fault? true v with
  | some f => .error f
  | none =>
    match v with
    | text s => .ok s
    | date m => .ok m.spacedText
    | recordId hex => .ok hex
    | v => .ok v.inspect

/-- The text that a value puts into a message. -/
def fill? (v : Value) : Except Failure String :=
  match v with
  | null => .ok ""
  | bool b => .ok (if b then "true" else "false")
  | float x =>
    match Decimal.whole? x with
    | some n => .ok (toString n)
    | none => .ok (Decimal.numberText x)
  | list _ | dict _ => Json.text? v
  | int _ | text _ | date _ | recordId _ => v.display?

end Value

end ChatFlow
