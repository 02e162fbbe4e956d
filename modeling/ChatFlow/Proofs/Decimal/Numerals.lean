import ChatFlow.Proofs.Decimal.Holding
import ChatFlow.Proofs.Decimal.Integers

/-!
Integers that are written in decimal and read as numbers.

The decimal digits of an integer, with a minus in front if it is negative, are a numeral without blanks, low lines
and exponent, and none of the named numbers. It is read as the number of the integer
(`Decimal.readNumber?_toString`): a numeral of more than about 320 digits counts as infinite before it is looked at,
which is what rounding makes of it.
-/

namespace ChatFlow.Decimal

open Float.Model.UnpackedFloat (Sign)
open Text (isDigit isDecimal decimalValue?)

variable {n : Nat} {c : Char} {cs : List Char}

/-! ## Digits -/

theorem lt_of_isDigit (digit : c.isDigit = true) : 48 ≤ c.toNat ∧ c.toNat ≤ 57 := by
  simp only [Char.isDigit, Bool.and_eq_true, decide_eq_true_eq, UInt32.le_iff_toNat_le] at digit
  exact digit

theorem val_lt_of_isDigit (digit : c.isDigit = true) : c.val < 0x80 := by
  have := lt_of_isDigit digit
  rw [UInt32.lt_iff_toNat_lt]
  show c.toNat < 128
  omega

theorem decimalValue?_of_isDigit (digit : c.isDigit = true) : decimalValue? c = some (c.toNat - '0'.toNat) := by
  rw [decimalValue?, if_pos (val_lt_of_isDigit digit), if_pos digit]

theorem isDigit_of_isDigit (digit : c.isDigit = true) : isDigit c = true := by
  rw [isDigit, if_pos (val_lt_of_isDigit digit), digit]

theorem isDecimal_of_isDigit (digit : c.isDigit = true) : isDecimal c = true := by
  rw [isDecimal, decimalValue?_of_isDigit digit]
  rfl

theorem ofDigits_filterMap (digits : ∀ c ∈ cs, c.isDigit = true) (start : Nat) :
    (cs.filterMap decimalValue?).foldl (fun n d => n * 10 + d) start = Nat.ofDigitChars 10 cs start := by
  induction cs generalizing start with
  | nil => rfl
  | cons c rest ih =>
    rw [List.filterMap_cons_some (decimalValue?_of_isDigit (digits c List.mem_cons_self)), List.foldl_cons,
      Nat.ofDigitChars_cons, Nat.mul_comm]
    exact ih (fun d later => digits d (List.mem_cons_of_mem _ later)) _

theorem isDigit_toDigits (n : Nat) : ∀ c ∈ Nat.toDigits 10 n, c.isDigit = true := fun _ member =>
  Nat.isDigit_of_mem_toDigits (by decide) (by decide) member

/-- The digits of a number are read as the number. -/
theorem ofDigits_toDigits (n : Nat) : ofDigits ((Nat.toDigits 10 n).filterMap decimalValue?) = n := by
  rw [ofDigits, ofDigits_filterMap (isDigit_toDigits n)]
  exact Nat.ofDigitChars_ten_toDigits

/-- An integer is written with its digits, a negative one with a minus in front. -/
theorem toList_ofNat (n : Nat) : (toString (Int.ofNat n)).toList = Nat.toDigits 10 n :=
  Nat.toList_repr

theorem toList_negSucc (n : Nat) : (toString (Int.negSucc n)).toList = '-' :: Nat.toDigits 10 (n + 1) := by
  show ("-" ++ (n + 1).repr).toList = _
  rw [String.toList_append, Nat.toList_repr]
  rfl

theorem minus_or_isDigit (a : Int) : ∀ c ∈ (toString a).toList, c = '-' ∨ c.isDigit = true := by
  intro c member
  cases a with
  | ofNat n => exact .inr (isDigit_toDigits n c (toList_ofNat n ▸ member))
  | negSucc n =>
    rw [toList_negSucc] at member
    exact (List.mem_cons.mp member).imp_right (isDigit_toDigits _ c)

theorem toList_toString_ne_nil (a : Int) : (toString a).toList ≠ [] := by
  cases a with
  | ofNat n =>
    rw [toList_ofNat]
    exact Nat.toDigits_ne_nil
  | negSucc n =>
    rw [toList_negSucc]
    exact List.cons_ne_nil _ _

/-! ## The number nearest to a natural number -/

/-- There is one infinity of each sign. -/
theorem eq_of_unpack_infinity {x y : Float} {s : Sign} (hx : x.toModel.unpack = .infinity s)
    (hy : y.toModel.unpack = .infinity s) : x = y := by
  obtain ⟨⟨p, hp⟩⟩ := x
  obtain ⟨⟨q, hq⟩⟩ := y
  have same : p.toNat = q.toNat := (toNat_of_unpack_infinity hx).trans (toNat_of_unpack_infinity hy).symm
  congr 2
  exact UInt64.toNat_inj.mp same

/-- A number with an exponent that is too large has no finite number next to it. -/
theorem unpack_ofNat_large (large : 1024 ≤ n.log2) : (Float.ofNat n).toModel.unpack = .infinity .positive := by
  have positive : n ≠ 0 := by
    rintro rfl
    exact absurd large (by decide)
  have more : n.log2 ≤ (rounded n).log2 :=
    (Nat.le_log2 (rounded_ne_zero positive)).mpr (rounded_bounds positive).1
  rw [unpack_ofNat, nearestNumber, dif_neg positive, if_neg (by omega)]

theorem nearest_zero (n : Nat) : nearest n 0 = Float.ofNat n := by
  unfold nearest
  split
  · next zero =>
    rw [beq_iff_eq] at zero
    subst zero
    rfl
  · dsimp only
    split
    · -- So many digits have at least 1024 binary places.
      refine eq_of_unpack_infinity (s := .positive) (by rfl) (unpack_ofNat_large ?_)
      omega
    · rw [if_neg (by omega)]
      rfl

/-! ## Reading -/

theorem toLower_of_isDigit (digit : c.isDigit = true) : c.toLower = c := by
  have bounds := lt_of_isDigit digit
  refine dif_neg fun capital => ?_
  have low : 65 ≤ c.toNat := UInt32.le_iff_toNat_le.mp capital.1
  omega

/-- Digits name no number. -/
theorem namedNumber?_digits (nonempty : cs ≠ []) (digits : ∀ c ∈ cs, c.isDigit = true) : namedNumber? cs = none := by
  obtain ⟨c, rest, rfl⟩ := List.exists_cons_of_ne_nil nonempty
  have digit := digits c List.mem_cons_self
  -- Names begin with a letter.
  have apart : ∀ name : String, name.toList.head?.any Char.isDigit = false →
      (String.ofList ((c :: rest).map Char.toLower) == name) = false := by
    intro name letter
    rw [beq_eq_false_iff_ne]
    rintro rfl
    rw [String.toList_ofList, List.map_cons, toLower_of_isDigit digit] at letter
    exact Bool.noConfusion (digit.symm.trans letter)
  unfold namedNumber?
  dsimp only
  rw [apart "inf" (by decide), apart "infinity" (by decide), apart "nan" (by decide)]
  rfl

theorem splitDigits_digits (digits : ∀ c ∈ cs, c.isDigit = true) :
    splitDigits cs = (cs.filterMap decimalValue?, []) := by
  have all : ∀ c ∈ cs, isDecimal c = true := fun c member => isDecimal_of_isDigit (digits c member)
  rw [splitDigits, List.takeWhile_eq_self_iff.mpr all, List.dropWhile_eq_nil_iff.mpr all]

theorem readMagnitude?_toDigits (n : Nat) : readMagnitude? (Nat.toDigits 10 n) = some (Float.ofNat n) := by
  have values : (Nat.toDigits 10 n).filterMap decimalValue? ≠ [] := by
    intro none
    obtain ⟨c, rest, begins⟩ := List.exists_cons_of_ne_nil (Nat.toDigits_ne_nil (n := n) (b := 10))
    have digit : c.isDigit = true := isDigit_toDigits n c (begins ▸ List.mem_cons_self)
    rw [begins, List.filterMap_cons_some (decimalValue?_of_isDigit digit)] at none
    cases none
  rw [readMagnitude?, splitDigits_digits (isDigit_toDigits n)]
  dsimp only
  rw [if_neg (by simp [values]), List.append_nil, ofDigits_toDigits, ← nearest_zero]
  rfl

/-- An integer that is written in decimal is read as its number. -/
theorem readNumber?_toString (a : Int) : readNumber? (toString a) = some (Float.ofInt a) := by
  have body (n : Nat) : (if joinsDigits false (Nat.toDigits 10 n) then
      (namedNumber? (Nat.toDigits 10 n)).orElse fun _ => readMagnitude? ((Nat.toDigits 10 n).filter (· != '_'))
      else none) = some (Float.ofNat n) := by
    have noLine : ∀ c ∈ Nat.toDigits 10 n, c ≠ '_' := by
      rintro _ member rfl
      exact Nat.underscore_not_in_toDigits member
    have kept : (Nat.toDigits 10 n).filter (· != '_') = Nat.toDigits 10 n :=
      List.filter_eq_self.mpr fun c member => bne_iff_ne.mpr (noLine c member)
    rw [if_pos (joinsDigits_of_noLine noLine false), namedNumber?_digits Nat.toDigits_ne_nil (isDigit_toDigits n), kept,
      readMagnitude?_toDigits]
    rfl
  have digits (n : Nat) : ∀ c ∈ Nat.toDigits 10 n, isDigit c = true := fun c member =>
    isDigit_of_isDigit (isDigit_toDigits n c member)
  cases a with
  | ofNat n =>
    rw [readNumber?, toList_ofNat, trimMargin_digits (digits n), splitSign_digits (digits n)]
    dsimp only
    rw [body]
    rfl
  | negSucc n =>
    have inside : ∀ c ∈ '-' :: Nat.toDigits 10 (n + 1), isMargin c = false :=
      List.forall_mem_cons.mpr ⟨rfl, fun c member => isMargin_eq_false_of_isDigit (digits _ c member)⟩
    rw [readNumber?, toList_negSucc, trimMargin_eq_self inside, splitSign]
    dsimp only
    rw [body]
    rfl

end ChatFlow.Decimal
