import ChatFlow.Decimal.Binary

/-!
The fewest decimal digits that identify a floating-point number.

The reals that round to a number form an interval around it, whose ends belong to it exactly when its
`m` is even. `Decimal.shortest` tries the decimals of one digit, of two, and so on; the first length
with a decimal in the interval wins, of two such decimals the nearer, and of two equally near ones the
even one. All comparisons are exact, by cross-multiplication of natural numbers.
-/

namespace ChatFlow.Decimal

/-- A decimal: `digits · 10^exponent`. -/
structure Dec where
  digits : Nat
  exponent : Int
deriving Repr, DecidableEq

/-- Compares `a · 10^i` with `n · 2^j`. -/
def compareScaled (a : Nat) (i : Int) (n : Nat) (j : Int) : Ordering :=
  compare (a * Nat.pow 10 i.toNat * Nat.pow 2 (-j).toNat)
    (n * Nat.pow 2 j.toNat * Nat.pow 10 (-i).toNat)

/-- The decimal lies among the reals that round to the number. -/
def Binary.readsBack (x : Binary) (d : Dec) : Bool :=
  let low := if x.narrowBelow then 4 * x.m - 1 else 4 * x.m - 2
  let high := 4 * x.m + 2
  let closed := x.m % 2 == 0
  let atLow := compareScaled d.digits d.exponent low (x.q - 2)
  let atHigh := compareScaled d.digits d.exponent high (x.q - 2)
  (atLow == .gt || (closed && atLow == .eq)) && (atHigh == .lt || (closed && atHigh == .eq))

/-- The least `k` with `x < 10^k`, found upward from `guess` within `steps` tries. -/
def scaleFrom (x : Binary) (guess : Int) : Nat → Int
  | 0 => guess
  | steps + 1 =>
    if compareScaled 1 guess x.m x.q == .gt then guess else scaleFrom x (guess + 1) steps

/-- The least `k` with `x < 10^k`, for a number other than zero. -/
def Binary.scale (x : Binary) : Int :=
  let bits : Int := x.q + x.m.log2
  scaleFrom x (bits * 30103 / 100000 - 1) 5

/-- The two neighbours of the number among the multiples of `10^exponent`: the one not above it. -/
def Binary.below (x : Binary) (exponent : Int) : Nat :=
  (x.m * Nat.pow 2 x.q.toNat * Nat.pow 10 (-exponent).toNat)
    / (Nat.pow 10 exponent.toNat * Nat.pow 2 (-x.q).toNat)

/-- Of the two neighbours `n` and `n + 1` on a grid, the one that reads back and lies nearest. -/
def Binary.onGrid (x : Binary) (exponent : Int) : Option Dec :=
  let n := x.below exponent
  let down : Dec := ⟨n, exponent⟩
  let up : Dec := ⟨n + 1, exponent⟩
  match x.readsBack down, x.readsBack up with
  | false, false => none
  | true, false => some down
  | false, true => some up
  | true, true =>
    match compareScaled (2 * n + 1) exponent (2 * x.m) x.q with
    | .gt => some down
    | .lt => some up
    | .eq => some (if n % 2 == 0 then down else up)

/-- Moves trailing zeros of the digits into the exponent. -/
def Dec.strip (d : Dec) : Nat → Dec
  | 0 => d
  | fuel + 1 =>
    if d.digits % 10 == 0 && d.digits != 0 then Dec.strip ⟨d.digits / 10, d.exponent + 1⟩ fuel else d

/-- The fewest digits that read back, for a number other than zero. Seventeen digits always do. -/
def Binary.shortest (x : Binary) : Dec :=
  let k := x.scale
  let found := (List.range 17).findSome? fun i => x.onGrid (k - (i + 1 : Nat))
  (found.getD ⟨x.below (k - 17), k - 17⟩).strip 20

end ChatFlow.Decimal
