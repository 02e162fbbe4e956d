import ChatFlow.Schema.Checked
import ChatFlow.Decimal.Numeral
import ChatFlow.Decimal.Binary
import ChatFlow.Moment.Reader

/-!
Readers for the leaves of a record.

Reading is lenient where nothing can be lost: a whole number may come as a text or as a floating-point
number, a truth value as one of the usual words, a point in time as a text or a count of seconds. A
text never comes as anything but a text.
-/

namespace ChatFlow.Schema

open Checked

/-! ## Texts, lists and dictionaries -/

/-- Reads any value as it is. -/
def anything (v : Value) : Checked Value :=
  valid v

/-- Reads a text. -/
def text : Value → Checked String
  | .text s => valid s
  | _ => unfit .notText

/-- Reads a dictionary of any values. -/
def dict : Value → Checked Entries
  | .dict entries => valid entries
  | _ => unfit .notDict

/-- Reads one of a few words. -/
def oneOf (words : List String) : Value → Checked String
  | .text s => if words.contains s then valid s else unfit (.notOneOf words)
  | _ => unfit (.notOneOf words)

/-! ## Integers -/

/-- Drops zeros in front, with the low lines among them, as far as something is left. -/
def dropLeadingZeros (cs : List Char) : List Char :=
  match cs with
  | '0' :: _ =>
    let run := cs.takeWhile fun c => c == '0' || c == '_'
    match cs.drop run.length with
    | c :: rest => if c.isDigit then c :: rest else cs.drop (run.length - 1)
    | [] => cs.drop (run.length - 1)
  | _ => cs

/-- Splits a fraction of zeros off the end: a point and at least one zero, nothing else. -/
def dropZeroFraction (cs : List Char) : List Char :=
  match cs.dropWhile (· != '.') with
  | '.' :: '0' :: zeros => if zeros.all (· == '0') then cs.takeWhile (· != '.') else cs
  | _ => cs

/-- Only digits, and low lines that stand singly between digits. -/
def isDigitRun (cs : List Char) : Bool :=
  cs.all (fun c => c.isDigit || c == '_') && Decimal.joinsDigits false cs && !cs.isEmpty

/-- Reads an integer from a text: blanks around it, a sign, leading zeros, low lines between digits and
a fraction of zeros are allowed. -/
def integerText (s : String) : Checked Int :=
  if s.utf8ByteSize > Decimal.digitLimit then unfit .overlongInteger
  else
    let (negative, body) := Decimal.splitSign (Decimal.trimMargin s.toList)
    let body := dropZeroFraction (dropLeadingZeros body)
    if isDigitRun body then
      let n : Int := Decimal.ofDigits ((body.filter (· != '_')).map fun c => c.toNat - '0'.toNat)
      valid (if negative then -n else n)
    else unfit .unreadableInteger

/-- An integer of at most 64 bits, as a floating-point number has to be to count as one. The lowest such
integer does not count. -/
def isShort (n : Int) : Bool :=
  n.natAbs < Nat.pow 2 63

/-- Reads an integer. -/
def integer : Value → Checked Int
  | .int n => valid n
  | .bool b => valid (if b then 1 else 0)
  | .float x =>
    match Decimal.whole? x with
    | some n => if isShort n then valid n else unfit .overlongInteger
    | none => unfit (if x.isFinite then .fractional else .notFinite)
  | .text s => integerText s
  | _ => unfit .notInteger

/-! ## Numbers -/

/-- Reads a numeral of ASCII digits, or the name of an infinity or of the undefined number. -/
def plainNumber? (cs : List Char) : Option Float :=
  let (negative, body) := Decimal.splitSign cs
  let magnitude :=
    if cs.all (·.val < 0x80) then
      (Decimal.namedNumber? body).orElse fun _ => Decimal.readMagnitude? body
    else none
  magnitude.map fun x => if negative then -x else x

/-- No low line stands first, last or beside another one. -/
def hasInnerLines (cs : List Char) : Bool :=
  cs.head? != some '_' && cs.getLast? != some '_'
    && !(cs.zip (cs.drop 1)).any fun (a, b) => a == '_' && b == '_'

/-- Reads a number from a text. Blanks may stand around it, or low lines inside it. -/
def numberText? (cs : List Char) : Option Float :=
  (plainNumber? (Decimal.trimMargin cs)).orElse fun _ =>
    if hasInnerLines cs then plainNumber? (cs.filter (· != '_')) else none

/-- Reads a number. -/
def number : Value → Checked Float
  | .float x => valid x
  | .int n =>
    match Decimal.ofInt? n with
    | some x => valid x
    | none => unfit .notNumber
  | .bool b => valid (if b then 1 else 0)
  | .text s =>
    match numberText? s.toList with
    | some x => valid x
    | none => unfit .unreadableNumber
  | _ => unfit .notNumber

/-! ## Truth values -/

/-- The words for false and for true, in lower case. -/
def falseWords : List String := ["0", "off", "f", "false", "n", "no"]

@[inherit_doc falseWords]
def trueWords : List String := ["1", "on", "t", "true", "y", "yes"]

/-- Reads a truth value from an integer. -/
def truthOfInt (n : Int) : Checked Bool :=
  if n == 0 then valid false
  else if n == 1 then valid true
  else unfit (if isShort n then .unreadableBool else .notBool)

/-- Reads a truth value. -/
def truth : Value → Checked Bool
  | .bool b => valid b
  | .int n => truthOfInt n
  | .float x =>
    match Decimal.whole? x with
    | some n => truthOfInt n
    | none => unfit .notBool
  | .text s =>
    let word := String.ofList (s.toList.map Char.toLower)
    if falseWords.contains word then valid false
    else if trueWords.contains word then valid true
    else unfit .unreadableBool
  | _ => unfit .notBool

/-! ## Points in time -/

/-- The outcome of an attempt to read a point in time. -/
def momentOr (cause : Cause) : Option Moment → Checked Moment
  | some m => valid m
  | none => unfit cause

/-- Reads a point in time. -/
def moment : Value → Checked Moment
  | .date m => valid m
  | .text s => momentOr .unreadableDate (Moment.read? s)
  | .int n =>
    if (Decimal.ofInt? n).isNone then unfit .notMoment
    else momentOr .unreadableMoment (Moment.ofCount? n 0)
  | .float x => momentOr .unreadableMoment (Moment.ofFloat? x)
  | _ => unfit .notMoment

end ChatFlow.Schema
