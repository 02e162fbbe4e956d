import ChatFlow.Decimal.Shortest

/-!
How numbers are written.

A number shows the fewest digits that identify it. It is written positionally while the exponent of
its first digit lies from -4 to 15, a whole number then ending in a point and a zero; beyond that one
digit stands before the point and the exponent follows with its sign and at least two digits.
-/

namespace ChatFlow.Decimal

/-- The spellings of the numbers that have no digits. -/
structure SpecialNames where
  undefined : String
  infinity : String

/-- The spellings in running text. -/
def SpecialNames.plain : SpecialNames := ⟨"nan", "inf"⟩

/-- The exponent of the first digit: at least two digits and always a sign. -/
def exponentText (e : Int) : String :=
  let digits := toString e.natAbs
  "e" ++ (if e < 0 then "-" else "+") ++ (if digits.length < 2 then "0" else "") ++ digits

/-- Lays a decimal out, positionally or with an exponent. -/
def Dec.layout (d : Dec) : String :=
  let ds := Nat.toDigits 10 d.digits
  let first : Int := d.exponent + ds.length - 1
  if -4 ≤ first && first < 16 then
    if 0 ≤ d.exponent then
      String.ofList (ds ++ List.replicate d.exponent.toNat '0') ++ ".0"
    else if 0 ≤ first then
      String.ofList (ds.take (first.toNat + 1)) ++ "." ++ String.ofList (ds.drop (first.toNat + 1))
    else
      "0." ++ String.ofList (List.replicate (first.natAbs - 1) '0' ++ ds)
  else
    let tail := ds.drop 1
    String.ofList (ds.take 1) ++ (if tail.isEmpty then "" else "." ++ String.ofList tail)
      ++ exponentText first

/-- The written form of a number. -/
def numberTextWith (names : SpecialNames) (x : Float) : String :=
  if x.isNaN then names.undefined
  else
    let sign := if signBit x.toBits then "-" else ""
    if x.isInf then sign ++ names.infinity
    else
      let b := Binary.ofBits x.toBits
      sign ++ if b.m == 0 then "0.0" else b.shortest.layout

/-- The written form of a number in running text. -/
def numberText (x : Float) : String :=
  numberTextWith .plain x

end ChatFlow.Decimal
