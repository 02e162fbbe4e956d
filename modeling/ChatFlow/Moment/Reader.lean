import ChatFlow.Moment
import ChatFlow.Decimal.Numeral
import ChatFlow.Decimal.Binary

/-!
Reading points in time.

A moment is written as a date, one of the separators `T`, `t`, space and low line, a time of at least
hours and minutes, and perhaps an offset: `Z`, or a sign with hours and minutes. Fractions of a second
beyond six digits are dropped. A bare date stands for its midnight. A number stands for seconds since
1970 in universal time, or for milliseconds if its magnitude is over twenty thousand million.
-/

namespace ChatFlow.Moment

/-! ## Parts of the written form -/

/-- A number of exactly so many digits. -/
def takeNumber (width : Nat) (cs : List Char) : Option (Nat × List Char) :=
  let ds := cs.take width
  if ds.length == width && ds.all Char.isDigit then
    some (Decimal.ofDigits (ds.map fun c => c.toNat - '0'.toNat), cs.drop width)
  else none

/-- Drops one of the given characters. -/
def takeMark (marks : List Char) : List Char → Option (List Char)
  | c :: rest => if marks.contains c then some rest else none
  | [] => none

/-- A date, whose parts are separated by hyphens. -/
def takeDate (cs : List Char) : Option (Date × List Char) := do
  let (year, cs) ← takeNumber 4 cs
  let (month, cs) ← takeNumber 2 (← takeMark ['-'] cs)
  let (day, cs) ← takeNumber 2 (← takeMark ['-'] cs)
  let d : Date := ⟨year, month, day⟩
  if d.isValid then some (d, cs) else none

/-- The fraction of a second, in microseconds, after its mark. At least one digit is needed. -/
def takeFraction (cs : List Char) : Option (Nat × List Char) :=
  let ds := cs.takeWhile Char.isDigit
  if ds.isEmpty then none
  else
    let six := (ds ++ List.replicate 6 '0').take 6
    some (Decimal.ofDigits (six.map fun c => c.toNat - '0'.toNat), cs.drop ds.length)

/-- Seconds and their fraction, if they follow the minutes. -/
def takeSeconds (cs : List Char) : Option (Nat × List Char) :=
  match takeMark [':'] cs with
  | none => some (0, cs)
  | some cs => do
    let (seconds, cs) ← takeNumber 2 cs
    if seconds > 59 then none
    match takeMark ['.', ','] cs with
    | none => some (seconds * perSecond, cs)
    | some cs =>
      let (fraction, cs) ← takeFraction cs
      some (seconds * perSecond + fraction, cs)

/-- A time of day in microseconds. -/
def takeTime (cs : List Char) : Option (Nat × List Char) := do
  let (hours, cs) ← takeNumber 2 cs
  let (minutes, cs) ← takeNumber 2 (← takeMark [':'] cs)
  if hours > 23 || minutes > 59 then none
  let (rest, cs) ← takeSeconds cs
  some ((hours * 3600 + minutes * 60) * perSecond + rest, cs)

/-- The offset in seconds at the end of a moment; none if nothing is left. -/
def takeOffset (cs : List Char) : Option (Option Int) :=
  match cs with
  | [] => some none
  | ['Z'] | ['z'] => some (some 0)
  | c :: cs => do
    let sign ← if c == '+' then some 1 else if c == '-' || c == '\u2212' then some (-1) else none
    let (hours, cs) ← takeNumber 2 cs
    let (minutes, cs) ← takeNumber 2 ((takeMark [':'] cs).getD cs)
    if minutes > 59 || hours > 23 || !cs.isEmpty then none
    some (some (sign * ((hours * 3600 + minutes * 60 : Nat) : Int)))

/-- Date, time and offset. -/
def readParts? (cs : List Char) : Option Moment := do
  let (d, cs) ← takeDate cs
  let (time, cs) ← takeTime (← takeMark ['T', 't', ' ', '_'] cs)
  some (ofParts d time (← takeOffset cs))

/-- A date and nothing else, standing for its midnight. -/
def readDay? (cs : List Char) : Option Moment :=
  match takeDate cs with
  | some (d, []) => some (ofParts d 0 none)
  | _ => none

/-! ## Numbers -/

/-- The magnitude up to which a number counts seconds. -/
def secondsLimit : Nat := 20000000000

/-- The first instant of 1970, in seconds. -/
def epoch : Int := 62135596800

/-- The moment of a count of seconds since 1970 and microseconds; it has to lie between the years 1600
and 9999. -/
def ofSeconds? (seconds : Int) (micros : Nat) : Option Moment :=
  let s := seconds + (micros / perSecond : Nat)
  if s < -11676096000 || s > 253402300799 then none
  else some ⟨((epoch + s) * perSecond).toNat + micros % perSecond, some 0⟩

/-- The moment of a number that counts seconds or milliseconds. -/
def ofCount? (n : Int) (micros : Nat) : Option Moment :=
  if n.natAbs ≤ secondsLimit then ofSeconds? n micros
  else ofSeconds? (n.fdiv 1000) (micros + ((n.fmod 1000) * 1000).toNat)

/-- The moment of a floating-point number. -/
def ofFloat? (x : Float) : Option Moment :=
  if x.isFinite then
    match Decimal.whole? x.floor with
    | some n =>
      let fraction := (x - (if x < 0 then x.ceil else x.floor)).abs
      ofCount? n ((fraction * 1000000).round.toUInt64.toNat)
    | none => none
  else none

/-- The moment of a numeral with or without a fraction. -/
def readCount? (cs : List Char) : Option Moment :=
  let (negative, body) := Decimal.splitSign cs
  let whole := body.takeWhile Char.isDigit
  if whole.isEmpty then none
  else
    match body.drop whole.length with
    | [] =>
      let n : Int := Decimal.ofDigits (whole.map fun c => c.toNat - '0'.toNat)
      ofCount? (if negative then -n else n) 0
    | '.' :: fraction =>
      if fraction.all Char.isDigit then
        match Decimal.readMagnitude? body with
        | some x =>
          let x := if negative then -x else x
          let x := if x.abs > secondsLimit.toFloat then x / 1000 else x
          match Decimal.whole? x.floor with
          | some n => ofCount? n (((x - x.floor) * 1000000).round.toUInt64.toNat)
          | none => none
        | none => none
      else none
    | _ => none

/-! ## Texts -/

/-- Reads a moment, or a number that stands for one, or a bare date. -/
def read? (s : String) : Option Moment :=
  let cs := s.toList
  (readParts? cs).orElse fun _ => (readCount? cs).orElse fun _ => readDay? cs

end ChatFlow.Moment
