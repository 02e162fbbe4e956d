import ChatFlow.Text.Blank
import ChatFlow.Text.Digit

/-!
Reading numbers that people typed.

A numeral may stand between blanks, may use the decimal digits of any script, and may have a low line
between two digits. `readInteger` takes a sign and digits, at most `digitLimit` of them;
`readNumber?` also takes a point, an exponent, and the names of the infinities and of the undefined
number in any case. Both refuse everything else, and `readInteger` tells an overlong numeral from text
that is none.
-/

namespace ChatFlow.Decimal

/-! ## The value of a decimal -/

/-- The natural number with the given digits, most significant first. -/
def ofDigits (digits : List Nat) : Nat :=
  digits.foldl (fun n d => n * 10 + d) 0

/-- The number nearest to `m · 10^e`. -/
def nearest (m : Nat) (e : Int) : Float :=
  if m == 0 then 0
  else
    let size := ((Nat.log2 m : Nat) : Int) * 30103 / 100000 + e
    if size > 320 then 1 / 0
    else if size < -350 then 0
    else Float.ofScientific m (e < 0) e.natAbs

/-! ## The parts of a numeral -/

/-- The characters that may stand around a numeral: blanks other than the information separators. -/
def isMargin (c : Char) : Bool :=
  Text.isBlank c && !(0x1C ≤ c.val && c.val ≤ 0x1F)

/-- The numeral without the blanks around it. -/
def trimMargin (cs : List Char) : List Char :=
  ((cs.dropWhile isMargin).reverse.dropWhile isMargin).reverse

/-- Splits a sign off; the flag tells a minus. -/
def splitSign : List Char → Bool × List Char
  | '-' :: rest => (true, rest)
  | '+' :: rest => (false, rest)
  | cs => (false, cs)

/-- A digit or the low line between digits. -/
def inDigitRun (c : Char) : Bool :=
  Text.isDecimal c || c == '_'

/-- Every low line stands between two digits; `afterDigit` tells what stands in front. -/
def joinsDigits (afterDigit : Bool) : List Char → Bool
  | [] => true
  | ['_'] => false
  | '_' :: c :: rest => afterDigit && Text.isDecimal c && joinsDigits (Text.isDecimal c) (c :: rest)
  | c :: rest => joinsDigits (Text.isDecimal c) rest
termination_by cs => cs.length

/-! ## Integers -/

/-- Why a text is no integer. -/
inductive IntegerFault where
  | malformed
  /-- It has more digits than are read. -/
  | tooLong (digits : Nat)
deriving Repr, DecidableEq

/-- The greatest number of digits of an integer that is read or written in decimal. -/
def digitLimit : Nat := 4300

/-- Reads an integer. A fault in the digits themselves comes before their number, and their number
before anything that follows them. -/
def readInteger (s : String) : Except IntegerFault Int :=
  let (negative, body) := splitSign (trimMargin s.toList)
  let run := body.takeWhile inDigitRun
  let digits := run.filterMap Text.decimalValue?
  if digits.isEmpty || !joinsDigits false run then .error .malformed
  else if digits.length > digitLimit then .error (.tooLong digits.length)
  else if run.length < body.length then .error .malformed
  else
    let n : Int := ofDigits digits
    .ok (if negative then -n else n)

/-! ## Numbers -/

/-- Splits decimal digits off. -/
def splitDigits (cs : List Char) : List Nat × List Char :=
  ((cs.takeWhile Text.isDecimal).filterMap Text.decimalValue?, cs.dropWhile Text.isDecimal)

/-- The exponent after its mark, nothing else following. -/
def readExponent? (cs : List Char) : Option Int :=
  let (negative, body) := splitSign cs
  match splitDigits body with
  | (d :: ds, []) =>
    let n : Int := ofDigits (d :: ds)
    some (if negative then -n else n)
  | _ => none

/-- An unsigned numeral without low lines. -/
def readMagnitude? (cs : List Char) : Option Float :=
  let (whole, rest) := splitDigits cs
  let (fraction, rest) :=
    match rest with
    | '.' :: r => splitDigits r
    | r => ([], r)
  if whole.isEmpty && fraction.isEmpty then none
  else
    let m := ofDigits (whole ++ fraction)
    match rest with
    | [] => some (nearest m (-(fraction.length : Int)))
    | c :: r =>
      if c == 'e' || c == 'E' then
        (readExponent? r).map fun e => nearest m (e - fraction.length)
      else none

/-- The numbers that have names. -/
def namedNumber? (cs : List Char) : Option Float :=
  let name := String.ofList (cs.map Char.toLower)
  if name == "inf" || name == "infinity" then some (1 / 0)
  else if name == "nan" then some (0 / 0)
  else none

/-- Reads a number. -/
def readNumber? (s : String) : Option Float :=
  let (negative, body) := splitSign (trimMargin s.toList)
  let magnitude :=
    if joinsDigits false body then
      (namedNumber? body).orElse fun _ => readMagnitude? (body.filter (· != '_'))
    else none
  magnitude.map fun x => if negative then -x else x

end ChatFlow.Decimal
