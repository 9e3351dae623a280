import Mathlib.Data.Int.Log
import Mathlib.Data.Rat.Floor
import Mathlib.Tactic.NormNum
import Mathlib.Tactic.Linarith
import Mathlib.Tactic.FieldSimp

/-!
# Exact results as JavaScript numbers

An arithmetic operation on numbers gives the double nearest its exact result, a tie going to the
even one: a multiple of the last place of 53 binary digits, and of no place below the smallest.
Results are below the largest number.
-/

namespace ReputationKey.Base

/-- The nearest integer, a tie going to the even one. -/
def nearestEven (q : ℚ) : ℤ :=
  if 2 * (q - ⌊q⌋) < 1 ∨ 2 * (q - ⌊q⌋) = 1 ∧ ⌊q⌋ % 2 = 0 then ⌊q⌋ else ⌊q⌋ + 1

/-- The exponent of the last of 53 binary digits. -/
def lastExponent (q : ℚ) : ℤ := max (Int.log 2 |q| - 52) (-1074)

/-- The nearest double. -/
def nearestDouble (q : ℚ) : ℚ := nearestEven (q / 2 ^ lastExponent q) * 2 ^ lastExponent q

/-- An integer below a number is below its nearest integer. -/
theorem le_nearestEven {q : ℚ} {k : ℤ} (h : (k : ℚ) ≤ q) : k ≤ nearestEven q := by
  have floor : k ≤ ⌊q⌋ := Int.le_floor.2 h
  simp only [nearestEven]
  split <;> omega

theorem nearestEven_le (q : ℚ) : (nearestEven q : ℚ) ≤ q + 1 / 2 := by
  have low := Int.floor_le q
  simp only [nearestEven]
  split
  · linarith
  · next far =>
      push Not at far
      push_cast
      linarith [far.1]

/-- Below `2 ^ k` the last of 53 digits is small. -/
theorem lastExponent_le {q : ℚ} {k : ℤ} (positive : 0 < q) (small : q < 2 ^ k) (normal : -1021 ≤ k) :
    lastExponent q ≤ k - 53 := by
  have digits : Int.log 2 q < k := by
    apply (Int.lt_zpow_iff_log_lt (by decide) positive).1
    exact_mod_cast small
  simp only [lastExponent, abs_of_pos positive]
  omega

/-- Rounding a number below `2 ^ k` adds at most half of the last of its 53 digits. -/
theorem nearestDouble_le {q : ℚ} {k : ℤ} (positive : 0 < q) (small : q < 2 ^ k) (normal : -1021 ≤ k) :
    nearestDouble q ≤ q + 2 ^ (k - 53) / 2 := by
  have place : (0 : ℚ) < 2 ^ lastExponent q := zpow_pos (by norm_num) _
  have bound : (2 : ℚ) ^ lastExponent q ≤ 2 ^ (k - 53) :=
    zpow_le_zpow_right₀ (by norm_num) (lastExponent_le positive small normal)
  have nearest := mul_le_mul_of_nonneg_right (nearestEven_le (q / 2 ^ lastExponent q)) place.le
  have scaled : (q / 2 ^ lastExponent q + 1 / 2) * 2 ^ lastExponent q =
      q + 2 ^ lastExponent q / 2 := by
    field_simp
  rw [nearestDouble]
  linarith

/-- Rounding keeps a number that is not negative so. -/
theorem nearestDouble_nonneg {q : ℚ} (h : 0 ≤ q) : 0 ≤ nearestDouble q := by
  have place : (0 : ℚ) < 2 ^ lastExponent q := zpow_pos (by norm_num) _
  have whole : 0 ≤ nearestEven (q / 2 ^ lastExponent q) := by
    apply le_nearestEven
    positivity
  rw [nearestDouble]
  have cast : (0 : ℚ) ≤ nearestEven (q / 2 ^ lastExponent q) := by exact_mod_cast whole
  positivity

/-- A whole number of at most 53 digits below a number stays below it. -/
theorem natCast_le_nearestDouble {q : ℚ} {n : ℕ} (positive : 0 < q) (h : (n : ℚ) ≤ q)
    (small : q < 2 ^ (53 : ℤ)) : (n : ℚ) ≤ nearestDouble q := by
  have exponent : lastExponent q ≤ 0 := lastExponent_le positive small (by decide)
  obtain ⟨digits, below⟩ := Int.eq_ofNat_of_zero_le (Int.neg_nonneg_of_nonpos exponent)
  have place : (2 : ℚ) ^ lastExponent q = (2 ^ digits)⁻¹ := by
    rw [show lastExponent q = -(digits : ℤ) by omega, zpow_neg, zpow_natCast]
  have power : (0 : ℚ) < 2 ^ digits := by positivity
  have whole : ((n : ℤ) * 2 ^ digits : ℤ) ≤ nearestEven (q / 2 ^ lastExponent q) := by
    apply le_nearestEven
    rw [place, div_inv_eq_mul]
    push_cast
    exact mul_le_mul_of_nonneg_right h power.le
  have cast : (n : ℚ) * 2 ^ digits ≤ nearestEven (q / 2 ^ lastExponent q) := by exact_mod_cast whole
  rw [nearestDouble, place] at *
  rw [le_mul_inv_iff₀ power]
  exact cast

/-- A number just below the next whole one rounds to no more than a number below that. -/
theorem floor_nearestDouble {q : ℚ} {n : ℕ} (positive : 0 < q) (low : (n : ℚ) ≤ q)
    (high : q ≤ n + 1048575 / 1048576) (small : n < 1048576) : ⌊nearestDouble q⌋ = n := by
  have size : (n : ℚ) ≤ 1048575 := by exact_mod_cast Nat.le_of_lt_succ small
  have digits : q < 2 ^ (20 : ℤ) := by
    norm_num
    linarith
  have room : q < 2 ^ (53 : ℤ) := by
    norm_num
    linarith
  have added : (2 : ℚ) ^ ((20 : ℤ) - 53) / 2 < 1 / 1048576 := by norm_num
  have above := nearestDouble_le positive digits (by decide)
  rw [Int.floor_eq_iff]
  constructor
  · exact_mod_cast natCast_le_nearestDouble positive low room
  · push_cast
    linarith

/-- Dividing whole numbers of at most twenty digits and rounding down gives the whole quotient. -/
theorem floor_nearestDouble_div {a b : ℕ} (divisor : 0 < b) (sized : b ≤ 1048576)
    (small : a / b < 1048576) : ⌊nearestDouble ((a : ℚ) / b)⌋ = (a / b : ℕ) := by
  have bPos : (0 : ℚ) < b := by exact_mod_cast divisor
  have bLe : (b : ℚ) ≤ 1048576 := by exact_mod_cast sized
  have quotient : (a : ℚ) / b = (a / b : ℕ) + ((a % b : ℕ) : ℚ) / b := by
    have whole : (a : ℚ) = b * (a / b : ℕ) + (a % b : ℕ) := by exact_mod_cast (Nat.div_add_mod a b).symm
    field_simp
    exact whole
  have restNonneg : 0 ≤ ((a % b : ℕ) : ℚ) / b := by positivity
  have restLe : ((a % b : ℕ) : ℚ) / b ≤ 1048575 / 1048576 := by
    have rest : ((a % b : ℕ) : ℚ) + 1 ≤ b := by exact_mod_cast Nat.mod_lt a divisor
    rw [div_le_iff₀ bPos]
    linarith
  rcases Nat.eq_zero_or_pos a with rfl | aPos
  · simp [nearestDouble, nearestEven]
  · apply floor_nearestDouble _ _ _ small
    · exact div_pos (by exact_mod_cast aPos) bPos
    · linarith
    · linarith

/-! ## Order and error -/

theorem nearestEven_intCast (k : ℤ) : nearestEven k = k := by
  simp [nearestEven]

theorem nearestEven_mono {q r : ℚ} (h : q ≤ r) : nearestEven q ≤ nearestEven r := by
  have floors := Int.floor_le_floor h
  rcases floors.lt_or_eq with less | same
  · simp only [nearestEven]
    split_ifs <;> omega
  · simp only [nearestEven, same]
    split
    · split <;> omega
    · next up =>
      rw [if_neg]
      rintro (down | ⟨tie, even⟩)
      · exact up (Or.inl (by linarith))
      · rcases (show 2 * (q - ⌊r⌋) ≤ 1 by linarith).lt_or_eq with down | tied
        · exact up (Or.inl down)
        · exact up (Or.inr ⟨tied, even⟩)

/-- Rounding does not go past a power of two. -/
theorem nearestDouble_le_two_zpow {q : ℚ} {k : ℤ} (h : q ≤ 2 ^ k) (exponent : lastExponent q ≤ k) :
    nearestDouble q ≤ 2 ^ k := by
  have place : (0 : ℚ) < 2 ^ lastExponent q := zpow_pos (by norm_num) _
  obtain ⟨digits, above⟩ := Int.eq_ofNat_of_zero_le (Int.sub_nonneg_of_le exponent)
  have power : (2 : ℚ) ^ k = ((2 ^ digits : ℕ) : ℤ) * 2 ^ lastExponent q := by
    rw [show k = digits + lastExponent q by omega, zpow_add₀ (by norm_num), zpow_natCast]
    norm_cast
  have whole : nearestEven (q / 2 ^ lastExponent q) ≤ ((2 ^ digits : ℕ) : ℤ) := by
    rw [← nearestEven_intCast ((2 ^ digits : ℕ) : ℤ)]
    apply nearestEven_mono
    rw [div_le_iff₀ place, ← power]
    exact h
  rw [nearestDouble, power]
  exact mul_le_mul_of_nonneg_right (by exact_mod_cast whole) place.le

/-- Rounding does not fall below a power of two. -/
theorem two_zpow_le_nearestDouble {q : ℚ} {k : ℤ} (h : 2 ^ k ≤ q) (exponent : lastExponent q ≤ k) :
    2 ^ k ≤ nearestDouble q := by
  have place : (0 : ℚ) < 2 ^ lastExponent q := zpow_pos (by norm_num) _
  obtain ⟨digits, above⟩ := Int.eq_ofNat_of_zero_le (Int.sub_nonneg_of_le exponent)
  have power : (2 : ℚ) ^ k = ((2 ^ digits : ℕ) : ℤ) * 2 ^ lastExponent q := by
    rw [show k = digits + lastExponent q by omega, zpow_add₀ (by norm_num), zpow_natCast]
    norm_cast
  have whole : ((2 ^ digits : ℕ) : ℤ) ≤ nearestEven (q / 2 ^ lastExponent q) := by
    apply le_nearestEven
    rw [le_div_iff₀ place, ← power]
    exact h
  rw [nearestDouble, power]
  exact mul_le_mul_of_nonneg_right (by exact_mod_cast whole) place.le

/-- Rounding keeps the order. -/
theorem nearestDouble_mono {q r : ℚ} (positive : 0 < q) (h : q ≤ r) :
    nearestDouble q ≤ nearestDouble r := by
  have logs : Int.log 2 q ≤ Int.log 2 r := Int.log_mono_right positive h
  by_cases same : lastExponent q = lastExponent r
  · have place : (0 : ℚ) < 2 ^ lastExponent r := zpow_pos (by norm_num) _
    have quotients : q / 2 ^ lastExponent r ≤ r / 2 ^ lastExponent r := by
      rw [div_le_div_iff_of_pos_right place]
      exact h
    rw [nearestDouble, nearestDouble, same]
    exact mul_le_mul_of_nonneg_right (by exact_mod_cast nearestEven_mono quotients) place.le
  · -- a power of two lies between the two numbers
    have exponents : lastExponent q < lastExponent r ∧ lastExponent r = Int.log 2 r - 52 ∧
        Int.log 2 q < Int.log 2 r := by
      simp only [lastExponent, abs_of_pos positive, abs_of_pos (lt_of_lt_of_le positive h)] at same ⊢
      omega
    have low : (2 : ℚ) ^ Int.log 2 r ≤ r := by
      exact_mod_cast Int.zpow_log_le_self (by decide) (lt_of_lt_of_le positive h)
    have high : q ≤ 2 ^ Int.log 2 r := by
      have above := (Int.lt_zpow_iff_log_lt (b := 2) (by decide) positive).2 exponents.2.2
      exact_mod_cast above.le
    exact le_trans (nearestDouble_le_two_zpow high (by omega))
      (two_zpow_le_nearestDouble low (by omega))

theorem abs_nearestEven_sub_le (q : ℚ) : |(nearestEven q : ℚ) - q| ≤ 1 / 2 := by
  have low := Int.floor_le q
  have high := Int.lt_floor_add_one q
  rw [abs_le]
  simp only [nearestEven]
  split
  · next down =>
    constructor
    · rcases down with less | ⟨tie, -⟩ <;> linarith
    · linarith
  · next up =>
    push Not at up
    push_cast
    constructor
    · linarith
    · linarith [up.1]

/-- A number of one or more is rounded by a part of 2 ^ 53 of itself at most. -/
theorem abs_nearestDouble_sub_le {q : ℚ} (h : 1 ≤ q) : |nearestDouble q - q| ≤ q / 2 ^ 53 := by
  have positive : 0 < q := by linarith
  have digits : 0 ≤ Int.log 2 q := by
    have ones := Int.log_mono_right (b := 2) (by norm_num : (0 : ℚ) < 1) h
    rwa [Int.log_one_right] at ones
  have exponent : lastExponent q = Int.log 2 q - 52 := by
    simp only [lastExponent, abs_of_pos positive]
    omega
  have place : (0 : ℚ) < 2 ^ lastExponent q := zpow_pos (by norm_num) _
  have leading : (2 : ℚ) ^ Int.log 2 q ≤ q := by
    exact_mod_cast Int.zpow_log_le_self (by decide) positive
  have half : (2 : ℚ) ^ lastExponent q / 2 = 2 ^ Int.log 2 q / 2 ^ 53 := by
    rw [exponent, zpow_sub₀ (by norm_num)]
    norm_num
    ring
  have scaled : nearestDouble q - q =
      (nearestEven (q / 2 ^ lastExponent q) - q / 2 ^ lastExponent q) * 2 ^ lastExponent q := by
    rw [nearestDouble]
    field_simp
  rw [scaled, abs_mul, abs_of_pos place]
  calc |(nearestEven (q / 2 ^ lastExponent q) : ℚ) - q / 2 ^ lastExponent q| * 2 ^ lastExponent q
      ≤ 1 / 2 * 2 ^ lastExponent q :=
        mul_le_mul_of_nonneg_right (abs_nearestEven_sub_le _) place.le
    _ = 2 ^ Int.log 2 q / 2 ^ 53 := by rw [← half]; ring
    _ ≤ q / 2 ^ 53 := by gcongr

end ReputationKey.Base
