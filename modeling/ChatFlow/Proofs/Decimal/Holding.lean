import ChatFlow.Proofs.Decimal.Doubles

/-!
The integers that numbers hold.

The number of an integer holds the short integer next to it, or is an infinity, which counts as the first integer
beyond the finite numbers. `Decimal.held` is that integer. Numbers stand in the order of what they hold
(`Decimal.ofInt_lt_ofInt_iff`), and what a finite number holds is read off it again (`Decimal.whole?_ofInt`). So an
integer survives exactly if it is short and not too large (`Decimal.held_eq_self_iff`), and the order of two
integers is never reversed, but is lost where they have one number (`Decimal.held_le_held`).
-/

namespace ChatFlow.Decimal

open Float.Model (UnpackedFloat)
open Float.Model.Format (binary64)
open Float.Model.UnpackedFloat (Sign)

variable {a b i j : Int} {v w : Nat}

/-- The first natural number beyond the finite numbers. -/
@[irreducible] def beyond : Nat := 2 ^ 1024

theorem beyond_pos : 0 < beyond := by
  have positive (k : Nat) : 0 < 2 ^ k := Nat.two_pow_pos k
  unfold beyond
  exact positive 1024

theorem log2_lt_iff (positive : v ≠ 0) : v.log2 < 1024 ↔ v < beyond := by
  have places (k : Nat) : v.log2 < k ↔ v < 2 ^ k := Nat.log2_lt positive
  unfold beyond
  exact places 1024

/-! ## What a number holds -/

/-- The number holds the integer; an infinity holds the first one beyond the finite numbers. -/
inductive Holds : UnpackedFloat → Int → Prop
  | zero (s : Sign) : Holds (.zero s) 0
  | finite (s : Sign) {v : Nat} (positive : v ≠ 0) (short : IsShort v) (small : v < beyond) :
    Holds (ofNumber s v positive) (s.apply v)
  | infinity (s : Sign) : Holds (.infinity s) (s.apply beyond)

theorem apply_positive (i : Int) : Sign.positive.apply i = i := rfl

theorem apply_negative (i : Int) : Sign.negative.apply i = -i := rfl

theorem apply_neg (s : Sign) (i : Int) : (-s).apply i = -s.apply i := by
  cases s
  · exact (Int.neg_neg i).symm
  · rfl

theorem Holds.neg {x : UnpackedFloat} (h : Holds x i) : Holds x.neg (-i) := by
  cases h with
  | zero s => exact .zero (-s)
  | finite s positive short small =>
    rw [← apply_neg]
    exact .finite (-s) positive short small
  | infinity s =>
    rw [← apply_neg]
    exact .infinity (-s)

/-! ## Order -/

/-- Of two numbers with one exponent, that with the smaller leading places is the smaller. -/
theorem leading_lt_leading_iff (positive : v ≠ 0) (short : IsShort v) (positive' : w ≠ 0) (short' : IsShort w)
    (same : v.log2 = w.log2) : leading v < leading w ↔ v < w := by
  have whole := leading_mul positive short
  rw [same] at whole
  rw [← Nat.mul_lt_mul_right (Nat.two_pow_pos w.log2), whole, leading_mul positive' short']
  exact Nat.mul_lt_mul_right (Nat.two_pow_pos 52)

theorem lt_of_log2_lt (positive : w ≠ 0) (less : v.log2 < w.log2) : v < w :=
  calc v < 2 ^ (v.log2 + 1) := Nat.lt_log2_self
    _ ≤ 2 ^ w.log2 := Nat.pow_le_pow_right (by decide) less
    _ ≤ w := Nat.log2_self_le positive

/-- Two short numbers compare as their exponents do, and with the same exponent as their leading places do. -/
theorem compare_leading (positive : v ≠ 0) (short : IsShort v) (positive' : w ≠ 0) (short' : IsShort w) :
    (compare (v.log2 - 52 : Int) (w.log2 - 52)).then (compare (leading v) (leading w)) = compare v w := by
  rcases Nat.lt_trichotomy v.log2 w.log2 with less | same | more
  · rw [Int.compare_eq_lt.mpr (by omega), Nat.compare_eq_lt.mpr (lt_of_log2_lt positive' less), Ordering.lt_then]
  · rw [Int.compare_eq_eq.mpr (by omega), Ordering.eq_then, Nat.compare_eq_ite_lt, Nat.compare_eq_ite_lt]
    simp only [leading_lt_leading_iff positive short positive' short' same,
      leading_lt_leading_iff positive' short' positive short same.symm]
  · rw [Int.compare_eq_gt.mpr (by omega), Nat.compare_eq_gt.mpr (lt_of_log2_lt positive more), Ordering.gt_then]

theorem compare_natCast (v w : Nat) : compare (v : Int) w = compare v w := by
  rw [Int.compare_eq_ite_lt, Nat.compare_eq_ite_lt]
  simp only [Int.ofNat_lt]

theorem compare_neg_neg (i j : Int) : compare (-i) (-j) = (compare i j).swap := by
  rw [Int.compare_swap, Int.compare_eq_ite_lt, Int.compare_eq_ite_lt]
  simp only [Int.neg_lt_neg_iff]

/-- Numbers compare as the integers that they hold do. -/
theorem Holds.compare_eq {x y : UnpackedFloat} (hx : Holds x i) (hy : Holds y j) :
    x.compare y = some (compare i j) := by
  have top := beyond_pos
  have below : ∀ {i j : Int}, i < j → some Ordering.lt = some (compare i j) := fun less =>
    congrArg some (Int.compare_eq_lt.mpr less).symm
  have above : ∀ {i j : Int}, j < i → some Ordering.gt = some (compare i j) := fun less =>
    congrArg some (Int.compare_eq_gt.mpr less).symm
  have equal (i : Int) : some Ordering.eq = some (compare i i) :=
    congrArg some (Int.compare_eq_eq.mpr rfl).symm
  cases hx with
  | zero s =>
    cases hy with
    | zero t => exact equal 0
    | finite t positive short small =>
      cases t
      · exact above (by rw [apply_negative]; omega)
      · exact below (by rw [apply_positive]; omega)
    | infinity t =>
      cases t
      · exact above (by rw [apply_negative]; omega)
      · exact below (by rw [apply_positive]; omega)
  | finite s positive short small =>
    cases hy with
    | zero t =>
      cases s
      · exact below (by rw [apply_negative]; omega)
      · exact above (by rw [apply_positive]; omega)
    | finite t positive' short' small' =>
      have order := compare_leading positive short positive' short'
      cases s <;> cases t <;> simp only [apply_negative, apply_positive]
      · rw [compare_neg_neg, compare_natCast, ← order]
        rfl
      · exact below (by omega)
      · exact above (by omega)
      · rw [compare_natCast, ← order]
        rfl
    | infinity t =>
      cases s <;> cases t <;> simp only [apply_negative, apply_positive]
      · exact above (by omega)
      · exact below (by omega)
      · exact above (by omega)
      · exact below (by omega)
  | infinity s =>
    cases hy with
    | zero t =>
      cases s
      · exact below (by rw [apply_negative]; omega)
      · exact above (by rw [apply_positive]; omega)
    | finite t positive short small =>
      cases s <;> cases t <;> simp only [apply_negative, apply_positive]
      · exact below (by omega)
      · exact below (by omega)
      · exact above (by omega)
      · exact above (by omega)
    | infinity t =>
      cases s <;> cases t <;> simp only [apply_negative, apply_positive]
      · exact equal _
      · exact below (by omega)
      · exact above (by omega)
      · exact equal _

/-! ## The number of an integer -/

/-- The sign of an integer; zero has none, and counts as positive. -/
def signOf (a : Int) : Sign := if a < 0 then .negative else .positive

/-- The integer that the number of an integer holds. -/
def held (a : Int) : Int :=
  (signOf a).apply (min (rounded a.natAbs) beyond : Nat)

/-- A finite number is next to the integer: it is below the midpoint of the largest one and the first beyond. -/
def IsWithin (a : Int) : Prop := a.natAbs + 2 ^ 970 < 2 ^ 1024

instance (a : Int) : Decidable (IsWithin a) :=
  inferInstanceAs (Decidable (_ < _))

theorem isWithin_iff : IsWithin a ↔ rounded a.natAbs < beyond := by
  have top : 1024 = 54 + 970 := rfl
  unfold beyond
  rw [rounded_lt_two_pow_iff top, IsWithin]

theorem holds_nearestNumber (n : Nat) : Holds (nearestNumber .positive n) (min (rounded n) beyond : Nat) := by
  unfold nearestNumber
  split
  · next zero =>
    rw [zero]
    exact .zero _
  · next positive =>
    have nonzero := rounded_ne_zero positive
    split
    · next small =>
      have small' := (log2_lt_iff nonzero).mp small
      rw [Nat.min_eq_left (Nat.le_of_lt small')]
      exact .finite .positive nonzero (isShort_rounded n) small'
    · next large =>
      rw [Nat.min_eq_right (Nat.le_of_not_lt fun small => large ((log2_lt_iff nonzero).mpr small))]
      exact .infinity .positive

theorem unpack_neg {x : Float} (h : Holds x.toModel.unpack i) :
    (Float.neg x).toModel.unpack = x.toModel.unpack.neg := by
  show (Float.Model.pack x.toModel.unpack.neg).unpack = _
  obtain ⟨j, back⟩ : ∃ j, Holds x.toModel.unpack.neg j := ⟨_, h.neg⟩
  generalize x.toModel.unpack.neg = y at back ⊢
  cases back with
  | zero s => exact unpack_pack_zero s
  | finite s positive short small => exact unpack_pack_ofNumber positive ((log2_lt_iff positive).mpr small)
  | infinity s => exact unpack_pack_infinity s

/-- The number of an integer holds the short integer next to it. -/
theorem holds_ofInt (a : Int) : Holds (Float.ofInt a).toModel.unpack (held a) := by
  cases a with
  | ofNat n =>
    show Holds (Float.ofNat n).toModel.unpack _
    rw [unpack_ofNat]
    exact holds_nearestNumber n
  | negSucc n =>
    have natural : Holds (Float.ofNat (n + 1)).toModel.unpack (min (rounded (n + 1)) beyond : Nat) := by
      rw [unpack_ofNat]
      exact holds_nearestNumber _
    show Holds (Float.neg (Float.ofNat (n + 1))).toModel.unpack _
    rw [unpack_neg natural, held, signOf, if_pos (Int.negSucc_lt_zero n), apply_negative]
    exact natural.neg

/-- The numbers of integers are ordered as the integers that they hold. -/
theorem ofInt_lt_ofInt_iff (a b : Int) : Float.ofInt a < Float.ofInt b ↔ held a < held b := by
  have order := (holds_ofInt a).compare_eq (holds_ofInt b)
  show decide (UnpackedFloat.lt (Float.ofInt a).toModel.unpack (Float.ofInt b).toModel.unpack = true) = true ↔ _
  rw [decide_eq_true_iff, UnpackedFloat.lt, order, beq_iff_eq, Option.some.injEq, Int.compare_eq_lt]

theorem ofInt_le_ofInt_iff (a b : Int) : Float.ofInt a ≤ Float.ofInt b ↔ held a ≤ held b := by
  have order := (holds_ofInt a).compare_eq (holds_ofInt b)
  show decide (UnpackedFloat.le (Float.ofInt a).toModel.unpack (Float.ofInt b).toModel.unpack = true) = true ↔ _
  rw [decide_eq_true_iff, UnpackedFloat.le, order, Option.any_some, Int.isLE_compare]

/-! ## Reading back -/

theorem Holds.isFinite_iff {x : UnpackedFloat} (h : Holds x i) : x.isFinite = true ↔ i.natAbs < beyond := by
  have top := beyond_pos
  have size (s : Sign) (n : Nat) : (s.apply n).natAbs = n := by
    cases s
    · exact Int.natAbs_neg n
    · exact Int.natAbs_natCast n
  cases h with
  | zero s => exact iff_of_true rfl top
  | finite s positive short small => exact iff_of_true rfl (by rwa [size])
  | infinity s => exact iff_of_false Bool.false_ne_true (by rw [size]; exact Nat.lt_irrefl _)

theorem natAbs_held (a : Int) : (held a).natAbs = min (rounded a.natAbs) beyond := by
  unfold held
  cases signOf a
  · exact Int.natAbs_neg _
  · exact Int.natAbs_natCast _

theorem isFinite_ofInt_iff (a : Int) : (Float.ofInt a).isFinite = true ↔ IsWithin a := by
  show (Float.ofInt a).toModel.unpack.isFinite = true ↔ _
  rw [(holds_ofInt a).isFinite_iff, natAbs_held, isWithin_iff]
  omega

/-- The leading places of a short number, moved to where they belong, are the number. -/
theorem whole?_leading (positive : v ≠ 0) (short : IsShort v) {x : Binary} (mantissa : x.m = leading v)
    (exponent : x.q = v.log2 - 52) : x.whole? = some v := by
  have whole := leading_mul positive short
  rw [Binary.whole?, mantissa, exponent]
  split
  · next large =>
    have places : v.log2 = ((v.log2 : Int) - 52).toNat + 52 := by omega
    rw [places, Nat.pow_add, ← Nat.mul_assoc] at whole
    exact congrArg some (Nat.eq_of_mul_eq_mul_right (Nat.two_pow_pos 52) whole)
  · next small =>
    obtain ⟨k, shift⟩ : ∃ k, ((v.log2 : Int) - 52).natAbs = k := ⟨_, rfl⟩
    have places : 52 = k + v.log2 := by omega
    rw [places, Nat.pow_add, ← Nat.mul_assoc] at whole
    have scaled : leading v = v * 2 ^ k := Nat.eq_of_mul_eq_mul_right (Nat.two_pow_pos _) whole
    rw [shift, scaled]
    show (if (v * 2 ^ k % 2 ^ k == 0) = true then some (v * 2 ^ k / 2 ^ k) else none) = some v
    rw [Nat.mul_mod_left, Nat.mul_div_cancel _ (Nat.two_pow_pos k)]
    rfl

theorem whole?_zero {x : Binary} (mantissa : x.m = 0) : x.whole? = some 0 := by
  rw [Binary.whole?, mantissa, Nat.zero_mul, Nat.zero_mod, Nat.zero_div]
  split <;> rfl

/-- What a finite number holds is read off its bits. -/
theorem whole?_of_holds {x : Float} (h : Holds x.toModel.unpack i) (finite : x.isFinite = true) :
    whole? x = some i := by
  rw [whole?, if_pos finite]
  obtain ⟨y, unpacked⟩ : ∃ y, UnpackedFloat.unpack binary64 x.toBits.toBitVec = y := ⟨_, rfl⟩
  have h' : Holds y i := unpacked ▸ h
  cases h' with
  | zero s =>
    rw [whole?_zero (ofBits_of_unpack_zero unpacked)]
    show some (if signBit x.toBits = true then -(0 : Int) else 0) = some 0
    rw [Int.neg_zero, ite_self]
  | finite s positive short small =>
    obtain ⟨mantissa, exponent, sign⟩ := ofBits_of_unpack_finite unpacked
    rw [whole?_leading positive short mantissa exponent]
    cases s with
    | negative => exact congrArg some (if_pos (sign.mpr rfl))
    | positive => exact congrArg some (if_neg fun minus => nomatch sign.mp minus)
  | infinity s =>
    rw [show x.isFinite = (UnpackedFloat.unpack binary64 x.toBits.toBitVec).isFinite from rfl, unpacked] at finite
    cases finite

/-- What the finite number of an integer holds is read off its bits. -/
theorem whole?_ofInt (within : IsWithin a) : whole? (Float.ofInt a) = some (held a) :=
  whole?_of_holds (holds_ofInt a) ((isFinite_ofInt_iff a).mpr within)

/-- An infinity is no whole number. -/
theorem whole?_ofInt_eq_none (far : ¬ IsWithin a) : whole? (Float.ofInt a) = none := by
  rw [whole?, if_neg fun finite => far ((isFinite_ofInt_iff a).mp finite)]

theorem ofInt?_eq (within : IsWithin a) : ofInt? a = some (Float.ofInt a) := by
  rw [ofInt?]
  exact if_pos ((isFinite_ofInt_iff a).mpr within)

theorem ofInt?_eq_none (far : ¬ IsWithin a) : ofInt? a = none := by
  rw [ofInt?]
  exact if_neg fun finite => far ((isFinite_ofInt_iff a).mp finite)

/-! ## Which integers survive -/

/-- The order of two integers is never reversed. -/
theorem held_le_held (ordered : a ≤ b) : held a ≤ held b := by
  unfold held signOf
  by_cases minus : b < 0
  · have sizes := rounded_le_rounded (show b.natAbs ≤ a.natAbs by omega)
    rw [if_pos (by omega), if_pos minus, apply_negative, apply_negative]
    omega
  · rw [if_neg minus, apply_positive]
    by_cases minus' : a < 0
    · rw [if_pos minus', apply_negative]
      omega
    · have sizes := rounded_le_rounded (show a.natAbs ≤ b.natAbs by omega)
      rw [if_neg minus', apply_positive]
      omega

/-- The order of two integers shows in what their numbers hold, unless that is one integer. -/
theorem held_lt_held_iff : held a < held b ↔ a < b ∧ held a ≠ held b := by
  constructor
  · intro less
    refine ⟨Int.not_le.mp fun more => ?_, Int.ne_of_lt less⟩
    have := held_le_held more
    omega
  · rintro ⟨less, apart⟩
    have := held_le_held (Int.le_of_lt less)
    omega

theorem held_zero : held 0 = 0 := by
  show ((min (rounded 0) beyond : Nat) : Int) = 0
  rw [rounded_of_lt (by decide), Nat.zero_min]
  rfl

/-- Whether an integer is positive can be seen from what its number holds. -/
theorem held_pos_iff : 0 < held a ↔ 0 < a := by
  constructor
  · intro more
    refine Int.not_le.mp fun less => ?_
    have := held_le_held less
    rw [held_zero] at this
    omega
  · intro more
    have nonzero := rounded_ne_zero (show a.natAbs ≠ 0 by omega)
    have top := beyond_pos
    rw [held, signOf, if_neg (by omega), apply_positive]
    omega

/-- No short integer is nearer to an integer than what its number holds. -/
theorem held_nearest (within : IsWithin a) (short : IsShort i.natAbs) : (a - held a).natAbs ≤ (a - i).natAbs := by
  have least : min (rounded a.natAbs) beyond = rounded a.natAbs := Nat.min_eq_left (Nat.le_of_lt (isWithin_iff.mp within))
  have same := @rounded_nearest a.natAbs _ short
  -- An integer on the other side is no nearer than zero.
  have zero := @rounded_nearest a.natAbs 0 ⟨0, 0, by decide, rfl⟩
  rw [held, least, signOf]
  split
  · rw [apply_negative]
    omega
  · rw [apply_positive]
    omega

/-- Exactly the short integers hold themselves, among those that a finite number is next to. -/
theorem held_eq_self_iff (within : IsWithin a) : held a = a ↔ IsShort a.natAbs := by
  have least : min (rounded a.natAbs) beyond = rounded a.natAbs := Nat.min_eq_left (Nat.le_of_lt (isWithin_iff.mp within))
  rw [← rounded_eq_self_iff, held, least, signOf]
  split
  · rw [apply_negative]
    omega
  · rw [apply_positive]
    omega

end ChatFlow.Decimal
