import ReputationKey.Base.WeightedMean
import ReputationKey.Reporting.RatingGoal
import Mathlib.Data.Rat.Floor
import Mathlib.Tactic.NormNum

/-!
# Rating goals: how many reviews a goal needs

Exact ratios decide a count of reviews. The count is the ceiling of `N (θ - E) / (m - θ)`: the
reviews at mix `m` that lift `N` reviews at average `E` to the threshold `θ`. Follows
`src/src/contexts/reporting/domain/rating-goal-numbers.ts` and `needExact` of
`src/src/contexts/reporting/domain/rating-goal-setback.ts`. Counts stay below 2^53, where a number
of the source holds every integer.
-/

namespace ReputationKey.Reporting

open Base

/-! ## Ratios -/

/-- An exact number in lowest terms. -/
abbrev Ratio := ℚ

/-- The exact ratio `num / den`. The source throws on a denominator that is not positive, so each
call brings the proof that its own is. -/
def ratio (num den : ℤ) (_positive : 0 < den) : Ratio := mkRat num den.toNat

/-- A tenth has a positive denominator. -/
theorem ten_pos : (0 : ℤ) < 10 := by decide

/-- Five stars: the best mix there is. -/
def fiveStars : Ratio := ratio 5 1 (by decide)

/-- The ratio of a value given in thousandths. -/
def fromThousandths (thousandths : ℤ) : Ratio := ratio thousandths 1000 (by decide)

/-- A difference that is not reduced. -/
structure RatioDifference where
  num : ℤ
  den : ℤ
  deriving DecidableEq, Repr

/-- `left - right`. -/
def difference (left right : Ratio) : RatioDifference where
  num := left.num * right.den - right.num * left.den
  den := left.den * right.den

/-- Shift a ratio by a signed number of thousandths. -/
def shiftByThousandths (value : Ratio) (thousandths : ℤ) : Ratio :=
  ratio (value.num * 1000 + thousandths * value.den) (value.den * 1000)
    (by have := value.den_pos; omega)

/-- Compare two ratios: negative, zero or positive. -/
def compareRatios (left right : Ratio) : ℤ :=
  let delta := (difference left right).num
  if delta = 0 then 0 else if delta < 0 then -1 else 1

theorem ratio_eq (num den : ℤ) (positive : 0 < den) : ratio num den positive = num / den := by
  have hden : ((den.toNat : ℤ) : ℚ) = den := by rw [Int.toNat_of_nonneg (by omega)]
  rw [ratio, Rat.mkRat_eq_div, ← hden]
  rfl

theorem fiveStars_eq : fiveStars = 5 := by
  rw [fiveStars, ratio_eq]
  norm_num

theorem fromThousandths_eq (thousandths : ℤ) : fromThousandths thousandths = thousandths / 1000 := by
  rw [fromThousandths, ratio_eq]
  norm_num

theorem shiftByThousandths_eq (value : Ratio) (thousandths : ℤ) :
    shiftByThousandths value thousandths = value + thousandths / 1000 := by
  have hden : (value.den : ℚ) ≠ 0 := by
    have := value.den_pos
    positivity
  rw [shiftByThousandths, ratio_eq]
  have hnum : (value.num : ℚ) = value * value.den := (Rat.mul_den_eq_num value).symm
  push_cast
  rw [hnum]
  field_simp

theorem difference_den_pos (left right : Ratio) : 0 < (difference left right).den := by
  have hleft := left.den_pos
  have hright := right.den_pos
  simp only [difference]
  positivity

theorem difference_num_eq (left right : Ratio) :
    ((difference left right).num : ℚ) = (left - right) * (difference left right).den := by
  have hleft : (left.num : ℚ) = left * left.den := (Rat.mul_den_eq_num left).symm
  have hright : (right.num : ℚ) = right * right.den := (Rat.mul_den_eq_num right).symm
  simp only [difference]
  push_cast
  rw [hleft, hright]
  ring

theorem difference_num_nonpos_iff (left right : Ratio) :
    (difference left right).num ≤ 0 ↔ left ≤ right := by
  have hden : (0 : ℚ) < (difference left right).den := by
    exact_mod_cast difference_den_pos left right
  have hcast : (difference left right).num ≤ 0 ↔ ((difference left right).num : ℚ) ≤ 0 := by
    norm_cast
  rw [hcast, difference_num_eq]
  constructor
  · intro h
    by_contra hpos
    have := mul_pos (sub_pos.2 (not_le.1 hpos)) hden
    linarith
  · intro h
    exact mul_nonpos_of_nonpos_of_nonneg (sub_nonpos.2 h) (le_of_lt hden)

theorem difference_num_eq_zero_iff (left right : Ratio) :
    (difference left right).num = 0 ↔ left = right := by
  have hden : ((difference left right).den : ℚ) ≠ 0 := by
    have := difference_den_pos left right
    positivity
  have hcast : (difference left right).num = 0 ↔ ((difference left right).num : ℚ) = 0 := by
    norm_cast
  rw [hcast, difference_num_eq, mul_eq_zero, or_iff_left hden, sub_eq_zero]

theorem compareRatios_nonpos_iff (left right : Ratio) :
    compareRatios left right ≤ 0 ↔ left ≤ right := by
  rw [← difference_num_nonpos_iff, compareRatios]
  grind

theorem compareRatios_nonneg_iff (left right : Ratio) :
    0 ≤ compareRatios left right ↔ right ≤ left := by
  have hle := difference_num_nonpos_iff left right
  have heq := difference_num_eq_zero_iff left right
  rw [compareRatios]
  grind

/-! ## Reviews needed -/

/-- A count of reviews, or none when no count gets there. -/
inductive ReviewsNeeded
  | count (reviews : ℕ)
  | unreachable
  deriving DecidableEq, Repr

/-- What a count of reviews is worked out from. -/
structure ReviewsNeededInput where
  reviewCount : ℕ
  exact : Ratio
  thresholdThousandths : ℤ
  /-- Average stars of the reviews still to come. -/
  mix : Ratio
  deriving DecidableEq, Repr

/-- The reviews at the mix that lift the reviews there are to the threshold. -/
def reviewsNeeded (input : ReviewsNeededInput) : ReviewsNeeded :=
  let threshold := fromThousandths input.thresholdThousandths
  let gap := difference threshold input.exact
  if gap.num ≤ 0 then .count 0
  else
    let lift := difference input.mix threshold
    if lift.num ≤ 0 then .unreachable
    else
      let numerator := input.reviewCount * gap.num * lift.den
      let denominator := gap.den * lift.num
      .count ((numerator + denominator - 1) / denominator).toNat

/-- The needed count in the order of counts, with no count above all. -/
def ReviewsNeeded.toENat : ReviewsNeeded → ℕ∞
  | .count reviews => reviews
  | .unreachable => ⊤

/-- A mix above the threshold divides by a positive number. -/
theorem needExact_den_pos {exact threshold mix : Ratio} (above : ¬ compareRatios mix threshold ≤ 0) :
    0 < (exact.den : ℤ) * threshold.den *
      (mix.num * threshold.den - threshold.num * mix.den) := by
  have hexact := exact.den_pos
  have hthreshold := threshold.den_pos
  have hlift : 0 < (difference mix threshold).num := by
    rw [compareRatios_nonpos_iff, ← difference_num_nonpos_iff] at above
    omega
  rw [difference] at hlift
  positivity

/-- The reviews at the mix that lift the reviews there are to the threshold, not rounded up. None
when the mix does not exceed the threshold. -/
def needExact (reviewCount : ℕ) (exact : Ratio) (thresholdThousandthsValue : ℤ) (mix : Ratio) :
    Option Ratio :=
  let threshold := ratio thresholdThousandthsValue 1000 (by decide)
  if 0 ≤ compareRatios exact threshold then some (ratio 0 1 (by decide))
  else if above : compareRatios mix threshold ≤ 0 then none
  else
    let gap := threshold.num * exact.den - exact.num * threshold.den
    let lift := mix.num * threshold.den - threshold.num * mix.den
    some (ratio (reviewCount * gap * mix.den * threshold.den) (exact.den * threshold.den * lift)
      (needExact_den_pos above))

/-! ## The least count -/

/-- The average at which Google starts to show a tenth. -/
def thresholdOf (targetTenths : ℕ) : ℚ := targetTenths / 10 - 0.05

theorem thresholdThousandths_eq (targetTenths : ℕ) :
    ((thresholdThousandths targetTenths : ℤ) : ℚ) / 1000 = thresholdOf targetTenths := by
  rw [thresholdThousandths, thresholdOf]
  push_cast
  ring

theorem thresholdOf_mono {targetTenths targetTenths' : ℕ} (hle : targetTenths ≤ targetTenths') :
    thresholdOf targetTenths ≤ thresholdOf targetTenths' := by
  have hcast : (targetTenths : ℚ) ≤ targetTenths' := by exact_mod_cast hle
  rw [thresholdOf, thresholdOf]
  linarith

/-- The integer ceiling of the source is the ceiling of the quotient. -/
theorem ceiling_eq {numerator denominator : ℤ} (hden : 0 < denominator) :
    ((numerator + denominator - 1) / denominator).toNat = ⌈(numerator : ℚ) / denominator⌉₊ := by
  have hdenRat : (0 : ℚ) < denominator := by exact_mod_cast hden
  apply eq_of_forall_ge_iff
  intro k
  rw [Nat.ceil_le, div_le_iff₀ hdenRat, Int.toNat_le]
  have hcast : (numerator : ℚ) ≤ k * denominator ↔ numerator ≤ k * denominator := by norm_cast
  rw [hcast, ← Int.lt_add_one_iff, Int.ediv_lt_iff_lt_mul hden, add_mul]
  omega

/-- The count in its three cases. -/
theorem reviewsNeeded_eq (reviewCount : ℕ) (exact mix : Ratio) (thousandths : ℤ) :
    reviewsNeeded ⟨reviewCount, exact, thousandths, mix⟩ =
      if (thousandths : ℚ) / 1000 ≤ exact then .count 0
      else if mix ≤ (thousandths : ℚ) / 1000 then .unreachable
      else .count ⌈reviewCount * ((thousandths : ℚ) / 1000 - exact) /
        (mix - (thousandths : ℚ) / 1000)⌉₊ := by
  simp only [reviewsNeeded, difference_num_nonpos_iff, fromThousandths_eq]
  split
  · rfl
  · split
    · rfl
    · next hexact hmix =>
      have hgap := difference_den_pos ((thousandths : ℚ) / 1000) exact
      have hliftDen := difference_den_pos mix ((thousandths : ℚ) / 1000)
      have hlift : 0 < (difference mix ((thousandths : ℚ) / 1000)).num := by
        rw [← difference_num_nonpos_iff] at hmix
        omega
      rw [ceiling_eq (Int.mul_pos hgap hlift)]
      congr 2
      push_cast
      have hpos : (0 : ℚ) < mix - (thousandths : ℚ) / 1000 := by linarith [not_le.1 hmix]
      have hgapRat : ((difference ((thousandths : ℚ) / 1000) exact).den : ℚ) ≠ 0 := by
        positivity
      have hliftRat : ((difference mix ((thousandths : ℚ) / 1000)).den : ℚ) ≠ 0 := by
        positivity
      rw [difference_num_eq, difference_num_eq]
      field_simp

/-- The exact need in its three cases. -/
theorem needExact_eq (reviewCount : ℕ) (exact mix : Ratio) (thousandths : ℤ) :
    needExact reviewCount exact thousandths mix =
      if (thousandths : ℚ) / 1000 ≤ exact then some 0
      else if mix ≤ (thousandths : ℚ) / 1000 then none
      else some (reviewCount * ((thousandths : ℚ) / 1000 - exact) /
        (mix - (thousandths : ℚ) / 1000)) := by
  simp only [needExact, compareRatios_nonneg_iff, compareRatios_nonpos_iff, ratio_eq]
  push_cast
  split
  · norm_num
  · split
    · rfl
    · next hexact hmix =>
      have hpos : (0 : ℚ) < mix - (thousandths : ℚ) / 1000 := by linarith [not_le.1 hmix]
      have hgap := difference_num_eq ((thousandths : ℚ) / 1000) exact
      have hlift := difference_num_eq mix ((thousandths : ℚ) / 1000)
      simp only [difference] at hgap hlift
      push_cast at hgap hlift
      have hexactDen : (exact.den : ℚ) ≠ 0 := by exact_mod_cast exact.den_nz
      have hmixDen : (mix.den : ℚ) ≠ 0 := by exact_mod_cast mix.den_nz
      have hthresholdDen : (((thousandths : ℚ) / 1000).den : ℚ) ≠ 0 := by
        exact_mod_cast Rat.den_nz _
      rw [hgap, hlift]
      congr 1
      field_simp

/-- The count is the least weight of the mix that lifts the average. -/
theorem reviewsNeeded_toENat {reviewCount : ℕ} (hcount : 1 ≤ reviewCount) (exact mix : Ratio)
    (thousandths : ℤ) :
    (reviewsNeeded ⟨reviewCount, exact, thousandths, mix⟩).toENat =
      leastWeight ((reviewCount : ℚ) * ((thousandths : ℚ) / 1000 - exact))
        (mix - (thousandths : ℚ) / 1000) := by
  have hpos : (0 : ℚ) < reviewCount := by exact_mod_cast hcount
  have hlack : (reviewCount : ℚ) * ((thousandths : ℚ) / 1000 - exact) ≤ 0 ↔
      (thousandths : ℚ) / 1000 ≤ exact := by
    constructor
    · intro h
      by_contra hlt
      have := mul_pos hpos (sub_pos.2 (not_le.1 hlt))
      linarith
    · intro h
      exact mul_nonpos_of_nonneg_of_nonpos (le_of_lt hpos) (sub_nonpos.2 h)
  simp only [reviewsNeeded_eq, leastWeight, hlack, sub_nonpos]
  split
  · rfl
  · split <;> rfl

theorem ReviewsNeeded.toENat_eq_coe_iff {needed : ReviewsNeeded} {k : ℕ} :
    needed.toENat = k ↔ needed = .count k := by
  cases needed with
  | count reviews => simp [toENat]
  | unreachable => simp [toENat]

theorem ReviewsNeeded.toENat_eq_top_iff {needed : ReviewsNeeded} :
    needed.toENat = ⊤ ↔ needed = .unreachable := by
  cases needed with
  | count reviews => simp [toENat]
  | unreachable => simp [toENat]

/-- A better mix or a lower threshold never needs more reviews. -/
theorem reviewsNeeded_mono {reviewCount : ℕ} (hcount : 1 ≤ reviewCount) (exact : Ratio)
    {mix mix' : Ratio} {thousandths thousandths' : ℤ} (hmix : mix' ≤ mix)
    (hthreshold : (thousandths : ℚ) / 1000 ≤ (thousandths' : ℚ) / 1000) :
    (reviewsNeeded ⟨reviewCount, exact, thousandths, mix⟩).toENat ≤
      (reviewsNeeded ⟨reviewCount, exact, thousandths', mix'⟩).toENat := by
  rw [reviewsNeeded_toENat hcount, reviewsNeeded_toENat hcount]
  apply leastWeight_mono
  · apply mul_le_mul_of_nonneg_left _ reviewCount.cast_nonneg
    linarith
  · linarith

theorem needExact_eq_none_iff (reviewCount : ℕ) (exact mix : Ratio) (thousandths : ℤ) :
    needExact reviewCount exact thousandths mix = none ↔
      reviewsNeeded ⟨reviewCount, exact, thousandths, mix⟩ = .unreachable := by
  rw [needExact_eq, reviewsNeeded_eq]
  split
  · simp
  · split <;> simp

/-- The exact need, rounded up, is the count. -/
theorem reviewsNeeded_of_needExact {reviewCount : ℕ} {exact mix need : Ratio} {thousandths : ℤ}
    (h : needExact reviewCount exact thousandths mix = some need) :
    ∃ k : ℕ, reviewsNeeded ⟨reviewCount, exact, thousandths, mix⟩ = .count k ∧ (k : ℤ) = ⌈need⌉ := by
  rw [needExact_eq] at h
  rw [reviewsNeeded_eq]
  split at h
  · next hexact =>
    cases h
    exact ⟨0, if_pos hexact, by simp⟩
  · split at h
    · cases h
    · next hexact hmix =>
      cases h
      refine ⟨_, by rw [if_neg hexact, if_neg hmix], ?_⟩
      apply Int.natCast_ceil_eq_ceil
      apply div_nonneg
      · exact mul_nonneg reviewCount.cast_nonneg (by linarith [not_le.1 hexact])
      · linarith [not_le.1 hmix]

/-- With one review or more, the count is the least that lifts the average to the target's
threshold, and there is none exactly when the average is below the threshold and no count lifts it.
The count falls with the mix and rises with the target, and it is the exact need rounded up. -/
theorem reviewsNeeded_least (reviewCount targetTenths : ℕ) (exact mix : Ratio)
    (hcount : 1 ≤ reviewCount) :
    (∀ k, reviewsNeeded ⟨reviewCount, exact, thresholdThousandths targetTenths, mix⟩ = .count k ↔
      IsLeast {k : ℕ | thresholdOf targetTenths ≤
        (reviewCount * exact + k * mix) / (reviewCount + k)} k) ∧
    (reviewsNeeded ⟨reviewCount, exact, thresholdThousandths targetTenths, mix⟩ = .unreachable ↔
      exact < thresholdOf targetTenths ∧ ∀ k : ℕ, ¬ thresholdOf targetTenths ≤
        (reviewCount * exact + k * mix) / (reviewCount + k)) ∧
    (∀ better, mix ≤ better →
      (reviewsNeeded ⟨reviewCount, exact, thresholdThousandths targetTenths, better⟩).toENat ≤
        (reviewsNeeded ⟨reviewCount, exact, thresholdThousandths targetTenths, mix⟩).toENat) ∧
    (∀ higherTenths, targetTenths ≤ higherTenths →
      (reviewsNeeded ⟨reviewCount, exact, thresholdThousandths targetTenths, mix⟩).toENat ≤
        (reviewsNeeded ⟨reviewCount, exact, thresholdThousandths higherTenths, mix⟩).toENat) ∧
    (needExact reviewCount exact (thresholdThousandths targetTenths) mix = none ↔
      reviewsNeeded ⟨reviewCount, exact, thresholdThousandths targetTenths, mix⟩ = .unreachable) ∧
    (∀ need, needExact reviewCount exact (thresholdThousandths targetTenths) mix = some need →
      ∃ k : ℕ, reviewsNeeded ⟨reviewCount, exact, thresholdThousandths targetTenths, mix⟩ =
        .count k ∧ (k : ℤ) = ⌈need⌉) := by
  have hpos : (0 : ℚ) < reviewCount := by exact_mod_cast hcount
  have hleast := reviewsNeeded_toENat hcount exact mix (thresholdThousandths targetTenths)
  rw [thresholdThousandths_eq] at hleast
  refine ⟨?_, ?_, ?_, ?_, needExact_eq_none_iff .., ?_⟩
  · intro k
    rw [← ReviewsNeeded.toENat_eq_coe_iff, hleast]
    exact leastWeight_eq_coe_iff hpos
  · rw [← ReviewsNeeded.toENat_eq_top_iff, hleast]
    exact leastWeight_eq_top_iff hpos
  · intro better hmix
    exact reviewsNeeded_mono hcount exact hmix (le_refl _)
  · intro higherTenths htarget
    apply reviewsNeeded_mono hcount exact (le_refl mix)
    rw [thresholdThousandths_eq, thresholdThousandths_eq]
    exact thresholdOf_mono htarget
  · intro need hneed
    exact reviewsNeeded_of_needExact hneed

/-- Four five-star reviews lift forty reviews at 4.3 to the average that shows 4.4. -/
theorem reviewsNeeded_least_four :
    reviewsNeeded ⟨40, 4.3, thresholdThousandths 44, 5⟩ = .count 4 ∧
    IsLeast {k : ℕ | thresholdOf 44 ≤ ((40 : ℕ) * (4.3 : ℚ) + k * 5) / ((40 : ℕ) + k)} 4 := by
  have hcount : reviewsNeeded ⟨40, 4.3, thresholdThousandths 44, 5⟩ = .count 4 := by decide +kernel
  exact ⟨hcount, ((reviewsNeeded_least 40 44 4.3 5 (by decide)).1 4).1 hcount⟩

end ReputationKey.Reporting
