import ChatFlow.Value
import ChatFlow.Failure
import ChatFlow.Decimal.Notation
import ChatFlow.Decimal.Numeral

/-!
The JSON text of a value.

Items and entries are separated by a comma and a space, a key and its value by a colon and a space.
The text is pure ASCII: a character outside the visible ASCII range is written by its number, one
beyond the basic plane by the numbers of its two surrogates. Points in time and record ids have no
JSON form of their own; `Json.write` gives them as texts, and `Json.fault?` finds the first of them,
or the first integer with too many digits, for whoever has to refuse them.
-/

namespace ChatFlow.Json

/-! ## Texts -/

/-- The escape of a 16-bit unit by its number. -/
def unitEscape (n : Nat) : List Char :=
  '\\' :: 'u' :: Text.hexPadded 4 n

/-- One character inside a JSON text. -/
def writeChar (c : Char) : List Char :=
  if c == '"' then ['\\', '"']
  else if c == '\\' then ['\\', '\\']
  else if c == '\n' then ['\\', 'n']
  else if c == '\r' then ['\\', 'r']
  else if c == '\t' then ['\\', 't']
  else if c == '\x08' then ['\\', 'b']
  else if c == '\x0c' then ['\\', 'f']
  else if 0x20 ≤ c.val && c.val ≤ 0x7E then [c]
  else if c.toNat < 0x10000 then unitEscape c.toNat
  else
    let n := c.toNat - 0x10000
    unitEscape (0xD800 + n / 0x400) ++ unitEscape (0xDC00 + n % 0x400)

/-- A JSON text between double quotes. -/
def writeText (s : String) : List Char :=
  '"' :: s.toList.flatMap writeChar ++ ['"']

/-! ## Values -/

/-- The spellings of the numbers that have no digits. -/
def specialNames : Decimal.SpecialNames := ⟨"NaN", "Infinity"⟩

mutual

/-- The JSON text of a value. -/
def write : Value → List Char
  | .null => "null".toList
  | .bool b => if b then "true".toList else "false".toList
  | .int n => (toString n).toList
  | .float x => (Decimal.numberTextWith specialNames x).toList
  | .text s => writeText s
  | .list items => '[' :: writeItems true items ++ [']']
  | .dict entries => '{' :: writeEntries true entries ++ ['}']
  | .date m => writeText m.spacedText
  | .recordId hex => writeText hex

/-- The items of a list; a separator goes before each but the first. -/
def writeItems (first : Bool) : List Value → List Char
  | [] => []
  | v :: rest => (if first then [] else [',', ' ']) ++ write v ++ writeItems false rest

/-- The entries of a dictionary; a separator goes before each but the first. -/
def writeEntries (first : Bool) : List (String × Value) → List Char
  | [] => []
  | (k, v) :: rest =>
    (if first then [] else [',', ' ']) ++ writeText k ++ [':', ' '] ++ write v
      ++ writeEntries false rest

end

/-- The JSON text of a value, as a string. -/
def text (v : Value) : String :=
  String.ofList (write v)

/-! ## What has no JSON form -/

/-- The integer has more digits than are written. -/
def isOverlong (n : Int) : Bool :=
  n.natAbs.log2 ≥ 14280 && n.natAbs ≥ Nat.pow 10 Decimal.digitLimit

mutual

/-- The first part of a value that has no JSON form. Given `asTexts`, only overlong integers count. -/
def fault? (asTexts : Bool) : Value → Option Failure
  | .int n => if isOverlong n then some .integerTooLong else none
  | .list items => faultInItems? asTexts items
  | .dict entries => faultInEntries? asTexts entries
  | .date _ => if asTexts then none else some (.notSerializable "datetime")
  | .recordId _ => if asTexts then none else some (.notSerializable "ObjectId")
  | .null | .bool _ | .float _ | .text _ => none

/-- The first faulty part among the items of a list. -/
def faultInItems? (asTexts : Bool) : List Value → Option Failure
  | [] => none
  | v :: rest =>
    match fault? asTexts v with
    | some f => some f
    | none => faultInItems? asTexts rest

/-- The first faulty part among the entries of a dictionary. -/
def faultInEntries? (asTexts : Bool) : List (String × Value) → Option Failure
  | [] => none
  | (_, v) :: rest =>
    match fault? asTexts v with
    | some f => some f
    | none => faultInEntries? asTexts rest

end

/-- The JSON text of a value without faulty parts. -/
def text? (v : Value) : Except Failure String :=
  match fault? false v with
  | some f => .error f
  | none => .ok (text v)

/-- The JSON text of a value, points in time and record ids being written as texts. -/
def lenientText? (v : Value) : Except Failure String :=
  match fault? true v with
  | some f => .error f
  | none => .ok (text v)

end ChatFlow.Json
