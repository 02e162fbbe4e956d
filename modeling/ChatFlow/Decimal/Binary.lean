/-!
The exact value behind a binary floating-point number.

A finite number is `m · 2^q` for a natural `m`; `Binary.ofBits` reads both off its bits. All exact
arithmetic on floating-point numbers in this library goes through this view: the integer value of an
integral number, the comparison with integers, the decimal digits.
-/

namespace ChatFlow.Decimal

/-- A finite number without its sign: `m · 2^q`. -/
structure Binary where
  m : Nat
  q : Int
  /-- The gap to the number below is half the gap to the number above. -/
  narrowBelow : Bool
deriving Repr, DecidableEq

/-- The sign bit of a 64-bit pattern. -/
def signBit (bits : UInt64) : Bool :=
  bits >>> 63 == 1

/-- The magnitude held by the bits of a finite number. -/
def Binary.ofBits (bits : UInt64) : Binary :=
  let e := ((bits >>> 52) &&& 0x7FF).toNat
  let f := (bits &&& 0xFFFFFFFFFFFFF).toNat
  if e == 0 then ⟨f, -1074, false⟩ else ⟨Nat.pow 2 52 + f, (e : Int) - 1075, f == 0 && e > 1⟩

/-- The whole number that a magnitude equals, if there is one. -/
def Binary.whole? (b : Binary) : Option Nat :=
  if 0 ≤ b.q then some (b.m * Nat.pow 2 b.q.toNat)
  else if b.m % Nat.pow 2 b.q.natAbs == 0 then some (b.m / Nat.pow 2 b.q.natAbs)
  else none

/-- The integer that a number equals; `none` for a fraction, an infinity and the undefined number. -/
def whole? (x : Float) : Option Int :=
  if x.isFinite then
    (Binary.ofBits x.toBits).whole?.map fun n => if signBit x.toBits then -(n : Int) else n
  else none

/-- The number nearest to an integer; `none` if the integer is too large for any finite number. -/
def ofInt? (n : Int) : Option Float :=
  let x := Float.ofInt n
  if x.isFinite then some x else none

end ChatFlow.Decimal
