import Mathlib.Algebra.Order.Floor.Semifield
import Mathlib.Data.ENat.Basic
import Mathlib.Tactic.FieldSimp
import Mathlib.Tactic.Linarith

/-!
# Weighted means and the least weight that lifts one

The mean of two values under two weights, and the least whole weight of one value that lifts the
mean to a bound.
-/

namespace ReputationKey.Base

variable {K : Type*} [Field K] [LinearOrder K] [IsStrictOrderedRing K]

/-! ## The mean -/

/-- The mean of `a` with weight `w` and `b` with weight `v`. -/
def weightedMean (w a v b : K) : K := (w * a + v * b) / (w + v)

/-- A mean reaches a bound when what one value lacks is at most what the other brings. -/
theorem le_weightedMean_iff {w a v b c : K} (hweight : 0 < w + v) :
    c ≤ weightedMean w a v b ↔ w * (c - a) ≤ v * (b - c) := by
  rw [weightedMean, le_div_iff₀ hweight]
  constructor <;> intro h <;> linarith

theorem weightedMean_le_iff {w a v b c : K} (hweight : 0 < w + v) :
    weightedMean w a v b ≤ c ↔ v * (b - c) ≤ w * (c - a) := by
  rw [weightedMean, div_le_iff₀ hweight]
  constructor <;> intro h <;> linarith

theorem lt_weightedMean_iff {w a v b c : K} (hweight : 0 < w + v) :
    c < weightedMean w a v b ↔ w * (c - a) < v * (b - c) := by
  rw [weightedMean, lt_div_iff₀ hweight]
  constructor <;> intro h <;> linarith

theorem le_weightedMean {w a v b c : K} (hw : 0 ≤ w) (hv : 0 ≤ v) (hweight : 0 < w + v)
    (ha : c ≤ a) (hb : c ≤ b) : c ≤ weightedMean w a v b := by
  rw [le_weightedMean_iff hweight]
  have hlack : w * (c - a) ≤ 0 := mul_nonpos_of_nonneg_of_nonpos hw (by linarith)
  have hbring : 0 ≤ v * (b - c) := mul_nonneg hv (by linarith)
  exact le_trans hlack hbring

theorem weightedMean_le {w a v b c : K} (hw : 0 ≤ w) (hv : 0 ≤ v) (hweight : 0 < w + v)
    (ha : a ≤ c) (hb : b ≤ c) : weightedMean w a v b ≤ c := by
  rw [weightedMean_le_iff hweight]
  have hbring : v * (b - c) ≤ 0 := mul_nonpos_of_nonneg_of_nonpos hv (by linarith)
  have hlack : 0 ≤ w * (c - a) := mul_nonneg hw (by linarith)
  exact le_trans hbring hlack

/-- A mean is at least one of its values. -/
theorem le_weightedMean_or {w a v b : K} (hw : 0 ≤ w) (hv : 0 ≤ v) (hweight : 0 < w + v) :
    a ≤ weightedMean w a v b ∨ b ≤ weightedMean w a v b := by
  rcases le_total a b with hab | hba
  · exact Or.inl (le_weightedMean hw hv hweight (le_refl a) hab)
  · exact Or.inr (le_weightedMean hw hv hweight hba (le_refl b))

/-- A mean is at most one of its values. -/
theorem weightedMean_le_or {w a v b : K} (hw : 0 ≤ w) (hv : 0 ≤ v) (hweight : 0 < w + v) :
    weightedMean w a v b ≤ a ∨ weightedMean w a v b ≤ b := by
  rcases le_total a b with hab | hba
  · exact Or.inr (weightedMean_le hw hv hweight hab (le_refl b))
  · exact Or.inl (weightedMean_le hw hv hweight (le_refl a) hba)

/-- A mean of two values above a bound is above it. -/
theorem lt_weightedMean {w a v b c : K} (hw : 0 < w) (hv : 0 ≤ v) (ha : c < a) (hb : c ≤ b) :
    c < weightedMean w a v b := by
  have hweight : 0 < w + v := by linarith
  rw [lt_weightedMean_iff hweight]
  have hlack : w * (c - a) < 0 := mul_neg_of_pos_of_neg hw (by linarith)
  have hbring : 0 ≤ v * (b - c) := mul_nonneg hv (by linarith)
  exact lt_of_lt_of_le hlack hbring

/-! ## The least weight -/

/-- The weights of `b` that lift the mean to `c`. -/
def liftingWeights (w a b c : K) : Set ℕ := {k | c ≤ weightedMean w a k b}

theorem mem_liftingWeights {w a b c : K} (hw : 0 < w) {k : ℕ} :
    k ∈ liftingWeights w a b c ↔ w * (c - a) ≤ k * (b - c) := by
  have hweight : 0 < w + (k : K) := add_pos_of_pos_of_nonneg hw k.cast_nonneg
  exact le_weightedMean_iff hweight

theorem zero_mem_liftingWeights {w a b c : K} (hw : 0 < w) :
    0 ∈ liftingWeights w a b c ↔ c ≤ a := by
  rw [mem_liftingWeights hw, Nat.cast_zero, zero_mul]
  constructor
  · intro h
    by_contra hlt
    have hpos : 0 < w * (c - a) := mul_pos hw (by linarith [not_le.1 hlt])
    linarith
  · intro h
    exact mul_nonpos_of_nonneg_of_nonpos (le_of_lt hw) (by linarith)

section LeastWeight

variable [FloorSemiring K]

/-- The least whole number of `gain`s that covers `lack`, or `⊤` when no number does. -/
def leastWeight (lack gain : K) : ℕ∞ :=
  if lack ≤ 0 then 0 else if gain ≤ 0 then ⊤ else ↑⌈lack / gain⌉₊

/-- A number bounds the least weight when nothing is lacking or that many gains cover it. -/
theorem leastWeight_le_iff {lack gain : K} {k : ℕ} :
    leastWeight lack gain ≤ (k : ℕ∞) ↔ lack ≤ 0 ∨ lack ≤ k * gain := by
  by_cases hlack : lack ≤ 0
  · simp [leastWeight, hlack]
  · by_cases hgain : gain ≤ 0
    · have hnone : ¬ lack ≤ k * gain := by
        have h : (k : K) * gain ≤ 0 := mul_nonpos_of_nonneg_of_nonpos k.cast_nonneg hgain
        intro hle
        exact hlack (le_trans hle h)
      simp [leastWeight, hlack, hgain, hnone]
    · rw [leastWeight, if_neg hlack, if_neg hgain, Nat.cast_le, Nat.ceil_le,
        div_le_iff₀ (not_le.1 hgain)]
      simp [hlack]

/-- The least weight grows with what is lacking and shrinks with the gain. -/
theorem leastWeight_mono {lack gain lack' gain' : K} (hlack : lack ≤ lack')
    (hgain : gain' ≤ gain) : leastWeight lack gain ≤ leastWeight lack' gain' := by
  cases h : leastWeight lack' gain' with
  | top => exact le_top
  | coe k =>
      have hcovers : lack' ≤ 0 ∨ lack' ≤ k * gain' := leastWeight_le_iff.1 (le_of_eq h)
      apply leastWeight_le_iff.2
      rcases hcovers with hnone | hk
      · exact Or.inl (le_trans hlack hnone)
      · right
        calc lack ≤ lack' := hlack
          _ ≤ k * gain' := hk
          _ ≤ k * gain := mul_le_mul_of_nonneg_left hgain k.cast_nonneg

/-- The least weight is the least one that lifts the mean. -/
theorem leastWeight_eq_coe_iff {w a b c : K} (hw : 0 < w) {k : ℕ} :
    leastWeight (w * (c - a)) (b - c) = k ↔ IsLeast (liftingWeights w a b c) k := by
  have hzero := zero_mem_liftingWeights (a := a) (b := b) (c := c) hw
  rw [mem_liftingWeights hw, Nat.cast_zero, zero_mul] at hzero
  have hbound : ∀ n : ℕ, leastWeight (w * (c - a)) (b - c) ≤ (n : ℕ∞) ↔
      c ≤ a ∨ n ∈ liftingWeights w a b c := by
    intro n
    rw [leastWeight_le_iff, mem_liftingWeights hw, hzero]
  by_cases hmet : c ≤ a
  · have hleast : leastWeight (w * (c - a)) (b - c) = (0 : ℕ) := by
      rw [leastWeight, if_pos (hzero.2 hmet)]
      rfl
    have hzeroLeast : IsLeast (liftingWeights w a b c) 0 :=
      ⟨(zero_mem_liftingWeights hw).2 hmet, fun _ _ ↦ Nat.zero_le _⟩
    rw [hleast, Nat.cast_inj]
    constructor
    · rintro rfl
      exact hzeroLeast
    · intro h
      exact hzeroLeast.unique h
  · simp only [hmet, false_or] at hbound
    constructor
    · intro h
      rw [h] at hbound
      refine ⟨(hbound k).1 (le_refl _), ?_⟩
      intro n hn
      exact Nat.cast_le.1 ((hbound n).2 hn)
    · intro h
      apply le_antisymm ((hbound k).2 h.1)
      cases hvalue : leastWeight (w * (c - a)) (b - c) with
      | top => exact le_top
      | coe n => exact Nat.cast_le.2 (h.2 ((hbound n).1 (le_of_eq hvalue)))

/-- No weight is the least one exactly when none lifts the mean. -/
theorem leastWeight_eq_top_iff {w a b c : K} (hw : 0 < w) :
    leastWeight (w * (c - a)) (b - c) = ⊤ ↔ a < c ∧ ∀ k, k ∉ liftingWeights w a b c := by
  constructor
  · intro htop
    have hnone : ∀ k, k ∉ liftingWeights w a b c := by
      intro k hk
      rw [mem_liftingWeights hw] at hk
      have hle := leastWeight_le_iff.2 (Or.inr hk)
      rw [htop] at hle
      exact absurd hle (by simp)
    refine ⟨?_, hnone⟩
    by_contra hle
    exact hnone 0 ((zero_mem_liftingWeights hw).2 (not_lt.1 hle))
  · rintro ⟨_, hnone⟩
    cases hvalue : leastWeight (w * (c - a)) (b - c) with
    | top => rfl
    | coe k => exact absurd ((leastWeight_eq_coe_iff hw).1 hvalue).1 (hnone k)

end LeastWeight

end ReputationKey.Base
