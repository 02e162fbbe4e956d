import ChatFlow.Value
import ChatFlow.Decimal.Numeral

/-!
Reading JSON text.

The reader takes the standard grammar and, beside it, the words `NaN`, `Infinity` and `-Infinity`. A
number with a fraction or an exponent is a floating-point number, every other one an integer of any
size up to the digit limit. Of several entries with one key the last counts, in the place of the first.

A fault is given by the number of characters that are left from the place where it was found; the
reader of a whole document turns that into a position. `readValue`, `readItems` and `readEntries` take
a bound on their depth, which `parse` sets to the length of the text: each level takes at least one
character.
-/

namespace ChatFlow.Json

/-- Why a text is no JSON document. -/
inductive Fault where
  /-- The grammar is broken where so many characters are left. -/
  | broken (left : Nat)
  /-- An integer has more digits than are read. -/
  | tooLong (digits : Nat)
deriving Repr, DecidableEq

/-- What a reader gives back: a result and the characters after it. -/
abbrev Read (α : Type) := Except Fault (α × List Char)

/-- The white space between tokens. -/
def isSpace (c : Char) : Bool :=
  c == ' ' || c == '\t' || c == '\n' || c == '\r'

/-- Drops white space in front. -/
def skipSpace (cs : List Char) : List Char :=
  cs.dropWhile isSpace

/-! ## Texts -/

/-- The value of a hexadecimal digit. -/
def hexValue? (c : Char) : Option Nat :=
  if '0' ≤ c && c ≤ '9' then some (c.toNat - '0'.toNat)
  else if 'a' ≤ c && c ≤ 'f' then some (c.toNat - 'a'.toNat + 10)
  else if 'A' ≤ c && c ≤ 'F' then some (c.toNat - 'A'.toNat + 10)
  else none

/-- The 16-bit unit written by four hexadecimal digits. -/
def unit? (a b c d : Char) : Option Nat := do
  return (((← hexValue? a) * 16 + (← hexValue? b)) * 16 + (← hexValue? c)) * 16 + (← hexValue? d)

/-- The unit is the first half of a pair. -/
def isHighSurrogate (n : Nat) : Bool := 0xD800 ≤ n && n ≤ 0xDBFF

/-- The unit is the second half of a pair. -/
def isLowSurrogate (n : Nat) : Bool := 0xDC00 ≤ n && n ≤ 0xDFFF

/-- The character of a pair of surrogates. -/
def pairChar (high low : Nat) : Char :=
  Char.ofNat (0x10000 + (high - 0xD800) * 0x400 + (low - 0xDC00))

/-- The character of a single unit; half a pair stands for nothing and gives the replacement sign. -/
def unitChar (n : Nat) : Char :=
  if isHighSurrogate n || isLowSurrogate n then '\uFFFD' else Char.ofNat n

/-- The characters of a sequence of units, a first half and a second half together making one. -/
def joinUnits : List Nat → List Char
  | [] => []
  | [n] => [unitChar n]
  | n :: m :: rest =>
    if isHighSurrogate n && isLowSurrogate m then pairChar n m :: joinUnits rest
    else unitChar n :: joinUnits (m :: rest)

/-- The character that a short escape stands for. -/
def shortEscape? : Char → Option Char
  | '"' => some '"'
  | '\\' => some '\\'
  | '/' => some '/'
  | 'b' => some '\x08'
  | 'f' => some '\x0c'
  | 'n' => some '\n'
  | 'r' => some '\r'
  | 't' => some '\t'
  | _ => none

/-- Puts a unit in front of what is read next. -/
def Read.cons (n : Nat) (r : Read (List Nat)) : Read (List Nat) :=
  r.map fun (ns, rest) => (n :: ns, rest)

/-- The units of a text up to its closing quote; `start` is what was left at the opening one. An escape
by number is only read if a character follows it. -/
def readUnits (start : Nat) : List Char → Read (List Nat)
  | [] => .error (.broken start)
  | '"' :: rest => .ok ([], rest)
  | ['\\'] => .error (.broken start)
  | '\\' :: 'u' :: a :: b :: c :: d :: e :: rest =>
    match unit? a b c d with
    | some n => (readUnits start (e :: rest)).cons n
    | none => .error (.broken (rest.length + 6))
  | '\\' :: 'u' :: rest => .error (.broken (rest.length + 1))
  | '\\' :: c :: rest =>
    match shortEscape? c with
    | some c' => (readUnits start rest).cons c'.toNat
    | none => .error (.broken (rest.length + 2))
  | c :: rest =>
    if c.val ≤ 0x1F then .error (.broken (rest.length + 1)) else (readUnits start rest).cons c.toNat

/-- The text up to its closing quote. -/
def readText (start : Nat) (cs : List Char) : Read String :=
  (readUnits start cs).map fun (ns, rest) => (String.ofList (joinUnits ns), rest)

/-! ## Numbers -/

/-- Splits ASCII digits off. -/
def takeDigits (cs : List Char) : List Nat × List Char :=
  ((cs.takeWhile Char.isDigit).map fun c => c.toNat - '0'.toNat, cs.dropWhile Char.isDigit)

/-- The fraction after a number, if a point and a digit follow. -/
def takeFraction : List Char → Option (List Nat) × List Char
  | '.' :: c :: rest =>
    if c.isDigit then
      let (ds, rest') := takeDigits (c :: rest)
      (some ds, rest')
    else (none, '.' :: c :: rest)
  | cs => (none, cs)

/-- The exponent after a number, if its mark and a digit follow. -/
def takeExponent (cs : List Char) : Option Int × List Char :=
  match cs with
  | c :: rest =>
    if c == 'e' || c == 'E' then
      let (negative, body) := Decimal.splitSign rest
      match takeDigits body with
      | ([], _) => (none, cs)
      | (ds, rest') =>
        let n : Int := Decimal.ofDigits ds
        (some (if negative then -n else n), rest')
    else (none, cs)
  | [] => (none, [])

/-- The digits before the point: a zero, or digits that do not start with one. -/
def takeWhole? : List Char → Option (List Nat × List Char)
  | '0' :: rest => some ([0], rest)
  | c :: rest => if c.isDigit then some (takeDigits (c :: rest)) else none
  | [] => none

/-- A number, if one stands here. -/
def readNumber? (limit : Option Nat) (cs : List Char) : Option (Read Value) :=
  let (negative, body) :=
    match cs with
    | '-' :: rest => (true, rest)
    | _ => (false, cs)
  (takeWhole? body).map fun (whole, rest) =>
    let (fraction, rest) := takeFraction rest
    let (exponent, rest) := takeExponent rest
    if fraction.isNone && exponent.isNone then
      if limit.any (· < whole.length) then .error (.tooLong whole.length)
      else
        let n : Int := Decimal.ofDigits whole
        .ok (.int (if negative then -n else n), rest)
    else
      let ds := fraction.getD []
      let x := Decimal.nearest (Decimal.ofDigits (whole ++ ds)) (exponent.getD 0 - ds.length)
      .ok (.float (if negative then -x else x), rest)

/-! ## Values -/

/-- The words that stand for values. -/
def words : List (List Char × Value) :=
  [("null".toList, .null), ("true".toList, .bool true), ("false".toList, .bool false),
   ("NaN".toList, .float (0 / 0)), ("Infinity".toList, .float (1 / 0)),
   ("-Infinity".toList, .float (-1 / 0))]

/-- The value of the word that stands here, if one does. -/
def readWord? (cs : List Char) : Option (Value × List Char) :=
  words.findSome? fun (w, v) => if w.isPrefixOf cs then some (v, cs.drop w.length) else none

mutual

/-- One value, without white space in front. -/
def readValue (limit : Option Nat) (fuel : Nat) (cs : List Char) : Read Value :=
  match fuel with
  | 0 => .error (.broken cs.length)
  | fuel + 1 =>
    match cs with
    | '"' :: rest => (readText cs.length rest).map fun (t, r) => (.text t, r)
    | '[' :: rest =>
      match skipSpace rest with
      | ']' :: rest' => .ok (.list [], rest')
      | rest' => (readItems limit fuel rest').map fun (vs, r) => (.list vs, r)
    | '{' :: rest =>
      match skipSpace rest with
      | '}' :: rest' => .ok (.dict [], rest')
      | rest' => (readEntries limit fuel rest').map fun (es, r) => (.dict (Entries.update [] es), r)
    | _ =>
      match readWord? cs with
      | some found => .ok found
      | none => (readNumber? limit cs).getD (.error (.broken cs.length))

/-- The items of a list up to its closing bracket; there is at least one. -/
def readItems (limit : Option Nat) (fuel : Nat) (cs : List Char) : Read (List Value) :=
  match fuel with
  | 0 => .error (.broken cs.length)
  | fuel + 1 =>
    match readValue limit fuel cs with
    | .error f => .error f
    | .ok (v, rest) =>
      match skipSpace rest with
      | ']' :: rest' => .ok ([v], rest')
      | ',' :: rest' =>
        (readItems limit fuel (skipSpace rest')).map fun (vs, r) => (v :: vs, r)
      | rest' => .error (.broken rest'.length)

/-- The entries of a dictionary up to its closing brace; there is at least one. -/
def readEntries (limit : Option Nat) (fuel : Nat) (cs : List Char) : Read Entries :=
  match fuel with
  | 0 => .error (.broken cs.length)
  | fuel + 1 =>
    match cs with
    | '"' :: rest =>
      match readText cs.length rest with
      | .error f => .error f
      | .ok (key, rest) =>
        match skipSpace rest with
        | ':' :: rest =>
          match readValue limit fuel (skipSpace rest) with
          | .error f => .error f
          | .ok (v, rest) =>
            let entry := (key, v)
            match skipSpace rest with
            | '}' :: rest' => .ok ([entry], rest')
            | ',' :: rest' =>
              (readEntries limit fuel (skipSpace rest')).map fun (es, r) => (entry :: es, r)
            | rest' => .error (.broken rest'.length)
        | rest => .error (.broken rest.length)
    | _ => .error (.broken cs.length)

end

/-- Reads a document of which white space may stand at both ends and nothing else beside the value. -/
def parseWith (limit : Option Nat) (s : String) : Except Fault Value :=
  let cs := s.toList
  match cs with
  | '\uFEFF' :: _ => .error (.broken cs.length)
  | _ =>
    match readValue limit (cs.length + 1) (skipSpace cs) with
    | .error f => .error f
    | .ok (v, rest) =>
      match skipSpace rest with
      | [] => .ok v
      | rest' => .error (.broken rest'.length)

/-- Reads a document with the digit limit for its integers. -/
def parse (s : String) : Except Fault Value :=
  parseWith (some Decimal.digitLimit) s

/-- The position in the text at which a fault that leaves so many characters was found. -/
def position (s : String) (left : Nat) : Nat :=
  s.length - left

end ChatFlow.Json
