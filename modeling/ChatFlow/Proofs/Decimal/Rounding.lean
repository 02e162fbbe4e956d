import Mathlib.Algebra.Group.Nat.Defs

/-!
Natural numbers with few significant binary places.

A number is short if it has at most 53 significant places. `Decimal.rounded` is the short number next
to a number, a half going to the even neighbour. It keeps the order (`Decimal.rounded_le_rounded`), and it keeps a
number exactly if that is short (`Decimal.rounded_eq_self_iff`).
-/

namespace ChatFlow.Decimal

/-- The number has that many significant binary places at most. -/
def IsShort (n : Nat) : Prop :=
  ∃ m k, m < 2 ^ 53 ∧ n = m * 2 ^ k

/-- The whole number next to `n / 2^k`, a half going to the even neighbour. -/
def nearestQuotient (n k : Nat) : Nat :=
  if 2 * (n % 2 ^ k) < 2 ^ k then n / 2 ^ k
  else if 2 ^ k < 2 * (n % 2 ^ k) then n / 2 ^ k + 1
  else n / 2 ^ k + n / 2 ^ k % 2

/-- The places of a number beyond those that are kept. -/
def excess (n : Nat) : Nat := n.log2 - 52

/-- The short number next to a number. -/
def rounded (n : Nat) : Nat :=
  nearestQuotient n (excess n) * 2 ^ excess n

variable {n m k : Nat}

theorem log2_mul_two_pow (positive : n ≠ 0) (j : Nat) : (n * 2 ^ j).log2 = n.log2 + j := by
  rw [Nat.log2_eq_iff (Nat.mul_ne_zero positive (Nat.ne_of_gt (Nat.two_pow_pos j)))]
  constructor
  · rw [Nat.pow_add]
    exact Nat.mul_le_mul_right _ (Nat.log2_self_le positive)
  · rw [Nat.add_right_comm, Nat.pow_add]
    exact Nat.mul_lt_mul_of_pos_right Nat.lt_log2_self (Nat.two_pow_pos j)

/-! ## The quotient -/

theorem le_nearestQuotient (n k : Nat) : n / 2 ^ k ≤ nearestQuotient n k := by
  unfold nearestQuotient
  split
  · exact Nat.le_refl _
  · split <;> omega

theorem nearestQuotient_le (n k : Nat) : nearestQuotient n k ≤ n / 2 ^ k + 1 := by
  unfold nearestQuotient
  split
  · exact Nat.le_succ _
  · split <;> omega

theorem nearestQuotient_mul (q k : Nat) : nearestQuotient (q * 2 ^ k) k = q := by
  have positive := Nat.two_pow_pos k
  rw [nearestQuotient, Nat.mul_mod_left, if_pos (by omega), Nat.mul_div_cancel _ positive]

theorem nearestQuotient_scale (n k j : Nat) : nearestQuotient (n * 2 ^ j) (k + j) = nearestQuotient n k := by
  have positive := Nat.two_pow_pos j
  have quotient : n * 2 ^ j / 2 ^ (k + j) = n / 2 ^ k := by
    rw [Nat.pow_add, Nat.mul_div_mul_right _ _ positive]
  have remainder : n * 2 ^ j % 2 ^ (k + j) = n % 2 ^ k * 2 ^ j := by
    rw [Nat.pow_add, Nat.mul_mod_mul_right]
  have below : 2 * (n % 2 ^ k * 2 ^ j) < 2 ^ (k + j) ↔ 2 * (n % 2 ^ k) < 2 ^ k := by
    rw [Nat.pow_add, ← Nat.mul_assoc, Nat.mul_lt_mul_right positive]
  have above : 2 ^ (k + j) < 2 * (n % 2 ^ k * 2 ^ j) ↔ 2 ^ k < 2 * (n % 2 ^ k) := by
    rw [Nat.pow_add, ← Nat.mul_assoc, Nat.mul_lt_mul_right positive]
  unfold nearestQuotient
  rw [quotient, remainder]
  simp only [below, above]

/-- Numbers that stand further on have quotients that do not stand before. -/
theorem nearestQuotient_mono (ordered : m ≤ n) (k : Nat) : nearestQuotient m k ≤ nearestQuotient n k := by
  rcases Nat.lt_or_eq_of_le (Nat.div_le_div_right (c := 2 ^ k) ordered) with less | same
  · calc nearestQuotient m k ≤ m / 2 ^ k + 1 := nearestQuotient_le m k
      _ ≤ n / 2 ^ k := less
      _ ≤ nearestQuotient n k := le_nearestQuotient n k
  · -- With the same whole part, the remainders are in order.
    have rest : m % 2 ^ k ≤ n % 2 ^ k := by
      have hm := Nat.div_add_mod m (2 ^ k)
      have hn := Nat.div_add_mod n (2 ^ k)
      rw [same] at hm
      omega
    unfold nearestQuotient
    rw [same]
    split <;> split <;> (try split) <;> (try split) <;> omega

/-! ## Rounding -/

theorem rounded_of_lt (small : n < 2 ^ 53) : rounded n = n := by
  have none : excess n = 0 := by
    unfold excess
    by_cases zero : n = 0
    · subst zero
      rfl
    · have := (Nat.log2_lt zero).mpr small
      omega
  rw [rounded, none]
  have whole := nearestQuotient_mul n 0
  rw [Nat.pow_zero, Nat.mul_one] at whole
  rw [whole, Nat.pow_zero, Nat.mul_one]

/-- The leading places of a long number. -/
theorem quotient_bounds (long : 2 ^ 52 ≤ n) :
    2 ^ 52 ≤ n / 2 ^ excess n ∧ n / 2 ^ excess n < 2 ^ 53 := by
  have positive : n ≠ 0 := by
    have := Nat.two_pow_pos 52
    omega
  have log : 52 ≤ n.log2 := (Nat.le_log2 positive).mpr long
  have low : 2 ^ n.log2 ≤ n := Nat.log2_self_le positive
  have high : n < 2 ^ (n.log2 + 1) := Nat.lt_log2_self
  constructor
  · rw [Nat.le_div_iff_mul_le (Nat.two_pow_pos _), ← Nat.pow_add]
    exact Nat.le_trans (Nat.pow_le_pow_right (by omega) (by unfold excess; omega)) low
  · rw [Nat.div_lt_iff_lt_mul (Nat.two_pow_pos _), ← Nat.pow_add]
    exact Nat.lt_of_lt_of_le high (Nat.pow_le_pow_right (by omega) (by unfold excess; omega))

theorem nearestQuotient_bounds (long : 2 ^ 52 ≤ n) :
    2 ^ 52 ≤ nearestQuotient n (excess n) ∧ nearestQuotient n (excess n) ≤ 2 ^ 53 := by
  obtain ⟨low, high⟩ := quotient_bounds long
  exact ⟨Nat.le_trans low (le_nearestQuotient _ _), Nat.le_trans (nearestQuotient_le _ _) high⟩

/-- Rounding does not leave the numbers of as many places, but for the next power of two. -/
theorem rounded_bounds (positive : n ≠ 0) : 2 ^ n.log2 ≤ rounded n ∧ rounded n ≤ 2 ^ (n.log2 + 1) := by
  rcases Nat.lt_or_ge n (2 ^ 52) with short | long
  · rw [rounded_of_lt (Nat.lt_of_lt_of_le short (Nat.pow_le_pow_right (by omega) (by decide)))]
    exact ⟨Nat.log2_self_le positive, Nat.le_of_lt Nat.lt_log2_self⟩
  · have log : n.log2 = 52 + excess n := by
      have := (Nat.le_log2 positive).mpr long
      unfold excess
      omega
    obtain ⟨low, high⟩ := nearestQuotient_bounds long
    constructor
    · rw [log, Nat.pow_add]
      exact Nat.mul_le_mul_right _ low
    · rw [log, Nat.add_right_comm, Nat.pow_add]
      exact Nat.mul_le_mul_right _ high

/-- Rounding keeps the order. -/
theorem rounded_le_rounded (ordered : m ≤ n) : rounded m ≤ rounded n := by
  by_cases zero : m = 0
  · subst zero
    exact Nat.zero_le _
  have zero' : n ≠ 0 := by omega
  rcases Nat.lt_trichotomy m.log2 n.log2 with less | same | more
  · calc rounded m ≤ 2 ^ (m.log2 + 1) := (rounded_bounds zero).2
      _ ≤ 2 ^ n.log2 := Nat.pow_le_pow_right (by decide) less
      _ ≤ rounded n := (rounded_bounds zero').1
  · unfold rounded excess
    rw [same]
    exact Nat.mul_le_mul_right _ (nearestQuotient_mono ordered _)
  · have : n < m := calc n < 2 ^ (n.log2 + 1) := Nat.lt_log2_self
      _ ≤ 2 ^ m.log2 := Nat.pow_le_pow_right (by decide) more
      _ ≤ m := Nat.log2_self_le zero
    omega

/-! ## Short numbers -/

theorem isShort_rounded (n : Nat) : IsShort (rounded n) := by
  rcases Nat.lt_or_ge n (2 ^ 52) with short | long
  · have short' : n < 2 ^ 53 := by omega
    exact ⟨n, 0, short', by rw [rounded_of_lt short']; simp⟩
  · rcases Nat.lt_or_eq_of_le (nearestQuotient_bounds long).2 with less | whole
    · exact ⟨_, _, less, rfl⟩
    · -- The quotient has one place more, and is a power of two.
      exact ⟨1, 53 + excess n, by decide, by rw [rounded, whole, Nat.pow_add]; simp⟩

/-- Exactly the short numbers are kept. -/
theorem rounded_eq_self_iff : rounded n = n ↔ IsShort n := by
  constructor
  · intro kept
    rw [← kept]
    exact isShort_rounded n
  · rintro ⟨m, k, short, rfl⟩
    by_cases zero : m * 2 ^ k = 0
    · rw [zero]
      rfl
    have few : excess (m * 2 ^ k) ≤ k := by
      have : m * 2 ^ k < 2 ^ (53 + k) := by
        rw [Nat.pow_add]
        exact Nat.mul_lt_mul_of_pos_right short (Nat.two_pow_pos k)
      have := (Nat.log2_lt zero).mpr this
      unfold excess
      omega
    unfold rounded
    generalize excess (m * 2 ^ k) = e at few ⊢
    rw [show m * 2 ^ k = m * 2 ^ (k - e) * 2 ^ e by rw [Nat.mul_assoc, ← Nat.pow_add, Nat.sub_add_cancel few],
      nearestQuotient_mul]

/-- Rounding does not depend on where the point stands. -/
theorem rounded_mul_two_pow (n j : Nat) : rounded (n * 2 ^ j) = rounded n * 2 ^ j := by
  rcases Nat.lt_or_ge n (2 ^ 53) with short | long
  · rw [rounded_of_lt short]
    exact rounded_eq_self_iff.mpr ⟨n, j, short, rfl⟩
  · have positive : n ≠ 0 := by omega
    have log : 53 ≤ n.log2 := (Nat.le_log2 positive).mpr long
    have scaled : excess (n * 2 ^ j) = excess n + j := by
      rw [excess, log2_mul_two_pow positive, excess]
      omega
    rw [rounded, scaled, nearestQuotient_scale, Nat.pow_add, ← Nat.mul_assoc]
    rfl

/-- No short number lies between the multiples around a number. -/
theorem IsShort.apart {v : Nat} (short : IsShort v) (long : 2 ^ 52 ≤ n) :
    v ≤ n / 2 ^ excess n * 2 ^ excess n ∨ (n / 2 ^ excess n + 1) * 2 ^ excess n ≤ v := by
  obtain ⟨m, k, few, rfl⟩ := short
  have low := (quotient_bounds long).1
  generalize excess n = e at low ⊢
  rcases Nat.lt_or_ge k e with below | above
  · left
    calc m * 2 ^ k ≤ 2 ^ 53 * 2 ^ k := Nat.mul_le_mul_right _ (Nat.le_of_lt few)
      _ = 2 ^ 52 * 2 ^ (k + 1) := by rw [Nat.pow_succ 2 k, Nat.pow_succ 2 52, Nat.mul_assoc, Nat.mul_comm 2]
      _ ≤ 2 ^ 52 * 2 ^ e := Nat.mul_le_mul_left _ (Nat.pow_le_pow_right (by decide) below)
      _ ≤ n / 2 ^ e * 2 ^ e := Nat.mul_le_mul_right _ low
  · have multiple : m * 2 ^ k = m * 2 ^ (k - e) * 2 ^ e := by
      rw [Nat.mul_assoc, ← Nat.pow_add, Nat.sub_add_cancel above]
    rw [multiple]
    rcases Nat.lt_or_ge (n / 2 ^ e) (m * 2 ^ (k - e)) with more | less
    · exact .inr (Nat.mul_le_mul_right _ more)
    · exact .inl (Nat.mul_le_mul_right _ less)

/-- No short number is nearer. -/
theorem rounded_nearest {v : Nat} (short : IsShort v) :
    ((n : Int) - rounded n).natAbs ≤ ((n : Int) - v).natAbs := by
  rcases Nat.lt_or_ge n (2 ^ 53) with few | many
  · rw [rounded_of_lt few, Int.sub_self]
    exact Nat.zero_le _
  · have apart := short.apart (show 2 ^ 52 ≤ n by omega)
    have whole := Nat.div_add_mod n (2 ^ excess n)
    have rest := Nat.mod_lt n (Nat.two_pow_pos (excess n))
    rw [Nat.mul_comm] at whole
    rw [Nat.add_mul, Nat.one_mul] at apart
    unfold rounded nearestQuotient
    split
    · omega
    · split
      · rw [Nat.add_mul, Nat.one_mul]
        omega
      · -- Half way, the neighbour is either one.
        rcases Nat.mod_two_eq_zero_or_one (n / 2 ^ excess n) with even | odd
        · rw [even, Nat.add_zero]
          omega
        · rw [odd, Nat.add_mul, Nat.one_mul]
          omega

/-- A nearest quotient has one place more than 53 from half a place below that on. -/
theorem nearestQuotient_lt_iff (top : n / 2 ^ (k + 1) < 2 ^ 53) :
    nearestQuotient n (k + 1) < 2 ^ 53 ↔ n + 2 ^ k < 2 ^ 53 * 2 ^ (k + 1) := by
  have whole := Nat.div_add_mod n (2 ^ (k + 1))
  have rest := Nat.mod_lt n (Nat.two_pow_pos (k + 1))
  have twice : 2 ^ (k + 1) = 2 ^ k * 2 := Nat.pow_succ 2 k
  rw [Nat.mul_comm] at whole
  rcases Nat.lt_or_ge (n / 2 ^ (k + 1) + 1) (2 ^ 53) with below | last
  · have following := Nat.mul_le_mul_right (2 ^ (k + 1)) (show n / 2 ^ (k + 1) + 1 ≤ 2 ^ 53 - 1 by omega)
    have := nearestQuotient_le n (k + 1)
    rw [Nat.add_mul, Nat.one_mul] at following
    constructor <;> intro <;> omega
  · -- From the last quotient, half a place leads on to the next power of two.
    have quotient : n / 2 ^ (k + 1) = 2 ^ 53 - 1 := by omega
    rw [quotient] at whole
    unfold nearestQuotient
    rw [quotient]
    split
    · constructor <;> intro <;> omega
    · split <;> constructor <;> intro <;> omega

/-- Rounding reaches a power of two from half a place below it. -/
theorem rounded_lt_two_pow_iff {j : Nat} (top : j = 54 + k) : rounded n < 2 ^ j ↔ n + 2 ^ k < 2 ^ j := by
  subst top
  have places : 2 ^ (54 + k) = 2 ^ 53 * 2 ^ (k + 1) := by rw [← Nat.pow_add]; congr 1; omega
  by_cases zero : n = 0
  · subst zero
    have : 2 ^ k < 2 ^ (54 + k) := Nat.pow_lt_pow_right (by decide) (by omega)
    rw [rounded_of_lt (by decide), Nat.zero_add]
    exact iff_of_true (Nat.two_pow_pos _) this
  rcases Nat.lt_trichotomy n.log2 (53 + k) with less | same | more
  · have bounds := (rounded_bounds zero).2
    have half : 2 ^ (n.log2 + 1) ≤ 2 ^ (53 + k) := Nat.pow_le_pow_right (by decide) less
    have double : 2 ^ (54 + k) = 2 ^ (53 + k) * 2 := by rw [← Nat.pow_succ]; congr 1; omega
    have small : n < 2 ^ (n.log2 + 1) := Nat.lt_log2_self
    have one : 2 ^ k ≤ 2 ^ (53 + k) := Nat.pow_le_pow_right (by decide) (by omega)
    have positive := Nat.two_pow_pos (53 + k)
    constructor <;> intro <;> omega
  · have shift : excess n = k + 1 := by
      unfold excess
      omega
    have long : 2 ^ 52 ≤ n := calc
      2 ^ 52 ≤ 2 ^ n.log2 := Nat.pow_le_pow_right (by decide) (by omega)
      _ ≤ n := Nat.log2_self_le zero
    rw [rounded, places, shift, Nat.mul_lt_mul_right (Nat.two_pow_pos (k + 1))]
    exact nearestQuotient_lt_iff (shift ▸ (quotient_bounds long).2)
  · have large : 2 ^ (54 + k) ≤ 2 ^ n.log2 := Nat.pow_le_pow_right (by decide) (by omega)
    have := (rounded_bounds zero).1
    have := Nat.log2_self_le zero
    constructor <;> intro <;> omega

end ChatFlow.Decimal
