import Mathlib.Data.List.TakeWhile
import ChatFlow.Decimal.Numeral

/-!
Integers that are written with digits only.

A text of digits has no sign, no blanks around it and no low line between its digits. It reads as an integer
exactly if all of its digits are decimal and there are not too many of them
(`Decimal.readInteger_digits_iff`).
-/

namespace ChatFlow

namespace Text

/-! ## Digits are apart from the other parts of a numeral -/

/-- Every range of the first list ends before every range of the second, or begins after it. -/
def AreApart (ranges others : List (Nat × Nat)) : Prop :=
  ∀ r ∈ ranges, ∀ s ∈ others, r.2 < s.1 ∨ s.2 < r.1

instance (ranges others : List (Nat × Nat)) : Decidable (AreApart ranges others) :=
  inferInstanceAs (Decidable (∀ r ∈ ranges, ∀ s ∈ others, r.2 < s.1 ∨ s.2 < r.1))

theorem inRanges_iff {ranges : List (Nat × Nat)} {c : Char} :
    inRanges ranges c = true ↔ ∃ r ∈ ranges, r.1 ≤ c.toNat ∧ c.toNat ≤ r.2 := by
  simp [inRanges]

theorem AreApart.inRanges_eq_false {ranges others : List (Nat × Nat)} (apart : AreApart ranges others)
    {c : Char} (within : inRanges ranges c = true) : inRanges others c = false := by
  rw [Bool.eq_false_iff]
  intro within'
  obtain ⟨r, listed, low, high⟩ := inRanges_iff.mp within
  obtain ⟨s, listed', low', high'⟩ := inRanges_iff.mp within'
  have := apart r listed s listed'
  omega

/-- The digits of the wider class lie in its ranges, those of seven bits included. -/
theorem inRanges_of_isDigit {c : Char} (digit : isDigit c = true) : inRanges digitRanges c = true := by
  unfold isDigit at digit
  split at digit
  · rw [inRanges_iff]
    refine ⟨(0x30, 0x39), by decide, ?_⟩
    simp only [Char.isDigit, Bool.and_eq_true, decide_eq_true_eq] at digit
    exact ⟨digit.1, digit.2⟩
  · exact digit

/-- The blank characters and the signs that may stand in a numeral. -/
def punctuationRanges : List (Nat × Nat) :=
  [(0x09, 0x0D), (0x1C, 0x20), (0x2B, 0x2B), (0x2D, 0x2D), (0x5F, 0x5F), (0x85, 0x85), (0xA0, 0xA0),
    (0x1680, 0x1680), (0x2000, 0x200A), (0x2028, 0x2029), (0x202F, 0x202F), (0x205F, 0x205F),
    (0x3000, 0x3000)]

theorem areApart_digits_punctuation : AreApart digitRanges punctuationRanges := by decide +kernel

theorem isBlank_eq_false_of_isDigit {c : Char} (digit : isDigit c = true) : isBlank c = false := by
  have apart := areApart_digits_punctuation.inRanges_eq_false (inRanges_of_isDigit digit)
  rw [Bool.eq_false_iff]
  intro blank
  simp only [isBlank, Bool.or_eq_true, Bool.and_eq_true, decide_eq_true_eq, beq_iff_eq,
    UInt32.le_iff_toNat_le, ← UInt32.toNat_inj, UInt32.reduceToNat] at blank
  simp only [inRanges, punctuationRanges, List.any_cons, List.any_nil, Bool.or_eq_false_iff,
    Bool.and_eq_false_iff, decide_eq_false_iff_not, Char.toNat] at apart
  omega

theorem ne_of_isDigit {c : Char} (digit : isDigit c = true) : c ≠ '+' ∧ c ≠ '-' ∧ c ≠ '_' := by
  have apart := areApart_digits_punctuation.inRanges_eq_false (inRanges_of_isDigit digit)
  refine ⟨?_, ?_, ?_⟩ <;>
  · rintro rfl
    revert apart
    decide

end Text

namespace Decimal

open Text (isDigit isDecimal decimalValue?)

variable {cs : List Char}

/-- Nothing is trimmed off without blanks. -/
theorem trimMargin_eq_self (inside : ∀ c ∈ cs, isMargin c = false) : trimMargin cs = cs := by
  have inner (l : List Char) (inside : ∀ c ∈ l, isMargin c = false) : l.dropWhile isMargin = l := by
    cases l with
    | nil => rfl
    | cons c rest => exact List.dropWhile_cons_of_neg (by simp [inside c List.mem_cons_self])
  rw [trimMargin, inner cs inside, inner cs.reverse fun c mem => inside c (List.mem_reverse.mp mem),
    List.reverse_reverse]

theorem isMargin_eq_false_of_isDigit {c : Char} (digit : isDigit c = true) : isMargin c = false := by
  simp [isMargin, Text.isBlank_eq_false_of_isDigit digit]

/-- Nothing is trimmed off digits. -/
theorem trimMargin_digits (digits : ∀ c ∈ cs, isDigit c = true) : trimMargin cs = cs :=
  trimMargin_eq_self fun c mem => isMargin_eq_false_of_isDigit (digits c mem)

/-- Digits have no sign. -/
theorem splitSign_digits (digits : ∀ c ∈ cs, isDigit c = true) : splitSign cs = (false, cs) := by
  cases cs with
  | nil => rfl
  | cons c rest =>
    obtain ⟨plus, minus, -⟩ := Text.ne_of_isDigit (digits c List.mem_cons_self)
    unfold splitSign
    split
    · exact absurd (List.cons.inj ‹_›).1 minus
    · exact absurd (List.cons.inj ‹_›).1 plus
    · rfl

/-- Without low lines, digits join. -/
theorem joinsDigits_of_noLine {cs : List Char} (noLine : ∀ c ∈ cs, c ≠ '_') (afterDigit : Bool) :
    joinsDigits afterDigit cs = true := by
  induction cs generalizing afterDigit with
  | nil => rw [joinsDigits]
  | cons c rest ih =>
    have here := noLine c List.mem_cons_self
    rw [joinsDigits]
    · exact ih (fun c mem => noLine c (List.mem_cons_of_mem _ mem)) _
    · exact fun same _ => here same
    · exact fun _ _ same _ => here same

/-- A text of digits reads as an integer exactly if the digits are decimal and not too many. -/
theorem readInteger_digits_iff (nonempty : cs ≠ []) (digits : ∀ c ∈ cs, isDigit c = true) :
    (∃ n, readInteger (String.ofList cs) = .ok n) ↔
      (∀ c ∈ cs, isDecimal c = true) ∧ cs.length ≤ digitLimit := by
  have noLine (c : Char) (mem : c ∈ cs) : c ≠ '_' := (Text.ne_of_isDigit (digits c mem)).2.2
  have inRun (c : Char) (mem : c ∈ cs) : inDigitRun c = isDecimal c := by
    simp [inDigitRun, noLine c mem]
  unfold readInteger
  rw [String.toList_ofList, trimMargin_digits digits, splitSign_digits digits]
  dsimp only
  by_cases decimal : ∀ c ∈ cs, isDecimal c = true
  · have run : cs.takeWhile inDigitRun = cs :=
      List.takeWhile_eq_self_iff.mpr fun c mem => (inRun c mem).trans (decimal c mem)
    have values : (cs.filterMap decimalValue?).length = cs.length :=
      List.filterMap_length_eq_length.mpr decimal
    have present : (cs.filterMap decimalValue?).isEmpty = false := by
      rw [List.isEmpty_eq_false_iff, ne_eq, ← List.length_eq_zero_iff, values, List.length_eq_zero_iff]
      exact nonempty
    rw [run, present, joinsDigits_of_noLine noLine, values]
    by_cases many : digitLimit < cs.length
    · rw [if_neg (by decide), if_pos many]
      exact iff_of_false nofun fun both => Nat.not_le_of_lt many both.2
    · rw [if_neg (by decide), if_neg many, if_neg (Nat.lt_irrefl _)]
      exact iff_of_true ⟨_, rfl⟩ ⟨decimal, Nat.le_of_not_lt many⟩
  · -- What follows the run is refused, if the digits in it were not.
    have shorter : (cs.takeWhile inDigitRun).length < cs.length := by
      have begins := List.takeWhile_prefix inDigitRun (l := cs)
      refine Nat.lt_of_le_of_ne begins.length_le fun same => decimal fun c mem => ?_
      rw [← inRun c mem]
      exact List.takeWhile_eq_self_iff.mp (begins.eq_of_length same) c mem
    refine iff_of_false ?_ fun both => decimal both.1
    rintro ⟨n, read⟩
    rw [if_pos shorter] at read
    split at read
    · cases read
    · split at read <;> cases read

end Decimal

end ChatFlow
