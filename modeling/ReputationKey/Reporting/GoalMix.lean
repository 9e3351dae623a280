import ReputationKey.Base.JsNumber
import ReputationKey.Reporting.GoalNumbers

/-!
# Rating goals: the mix a goal tracks

The stars new reviews are expected to average: the plan, the plan blended with the reviews since
the goal was set, or their own average once they are too low for the target. Follows
`src/src/contexts/reporting/domain/rating-goal-quality.ts` and `trackingMix` of
`src/src/contexts/reporting/domain/rating-goal-status.ts`.
-/

namespace ReputationKey.Reporting

open Base

/-! ## Planned quality -/

/-- 5.0: never a target. -/
def perfectTenths : ℕ := 50

/-- A planned quality clears the target's threshold by at least this much. -/
def qualityMarginThousandths : ℤ := 150

/-- A count of thousandths as a tenth, rounded up. -/
def tenthAtOrAbove (thousandths : ℤ) : ℤ := ⌈(thousandths : ℚ) / 100⌉

/-- The lowest planned quality for a target: its threshold and the margin, as a tenth. -/
def minimumQualityTenths (targetTenths : ℕ) : ℤ :=
  tenthAtOrAbove (thresholdThousandths targetTenths + qualityMarginThousandths)

/-- What is wrong with a planned quality. -/
inductive QualityProblem
  | invalidQuality
  deriving DecidableEq, Repr

/-- A climb goal's planned quality: a whole tenth from its floor to five stars. -/
def qualityProblem (targetTenths : ℕ) (qualityTenths : JsNumber) : Option QualityProblem :=
  if qualityTenths.isInteger && qualityTenths.isAtLeast (minimumQualityTenths targetTenths) &&
      !(JsNumber.finite perfectTenths).lt qualityTenths then none
  else some .invalidQuality

/-- In whole tenths the floor of a planned quality is one above the target. -/
theorem minimumQualityTenths_eq (targetTenths : ℕ) :
    minimumQualityTenths targetTenths = targetTenths + 1 := by
  rw [minimumQualityTenths, tenthAtOrAbove, thresholdThousandths, qualityMarginThousandths,
    Int.ceil_eq_iff]
  push_cast
  constructor <;> linarith

/-- The qualities that pass are the whole tenths from the floor to five stars. -/
theorem qualityProblem_eq_none_iff {targetTenths : ℕ} {qualityTenths : JsNumber} :
    qualityProblem targetTenths qualityTenths = none ↔
      ∃ quality : ℕ, qualityTenths = .finite quality ∧ targetTenths + 1 ≤ quality ∧
        quality ≤ perfectTenths := by
  rw [qualityProblem, minimumQualityTenths_eq]
  constructor
  · intro h
    split at h
    · next hquality =>
      cases qualityTenths with
      | nan | negInfinity | infinity => simp [JsNumber.isInteger] at hquality
      | finite value =>
          simp only [JsNumber.isInteger, JsNumber.isAtLeast, JsNumber.lt, Bool.and_eq_true,
            beq_iff_eq, decide_eq_true_eq, Bool.not_eq_true', decide_eq_false_iff_not,
            not_lt] at hquality
          obtain ⟨⟨hwhole, hfloor⟩, hperfect⟩ := hquality
          have hvalue : ((value.num : ℤ) : ℚ) = value := Rat.coe_int_num_of_den_eq_one hwhole
          rw [← hvalue] at hfloor hperfect
          have hnum : (targetTenths : ℤ) + 1 ≤ value.num := by exact_mod_cast hfloor
          have hnat : ((value.num.toNat : ℕ) : ℤ) = value.num := Int.toNat_of_nonneg (by omega)
          have htop : value.num ≤ (perfectTenths : ℤ) := by exact_mod_cast hperfect
          refine ⟨value.num.toNat, ?_, by omega, by omega⟩
          rw [← hvalue, ← hnat]
          rfl
    · cases h
  · rintro ⟨quality, rfl, hfloor, hperfect⟩
    have hfloorRat : ((targetTenths : ℚ) + 1) ≤ quality := by exact_mod_cast hfloor
    simp [JsNumber.isInteger, JsNumber.isAtLeast, JsNumber.lt, hfloorRat, hperfect]

/-! ## The mix -/

/-- A blended average counts the plan as this many reviews. -/
def plannedAverageWeightReviews : ℕ := 15

/-- Which average a goal's numbers assume. -/
inductive QualityBasis
  | planned
  | blended
  | sinceSet
  deriving DecidableEq, Repr

/-- The stars new reviews are expected to average, and what they rest on. -/
structure TrackingMix where
  mix : Ratio
  basis : QualityBasis
  deriving DecidableEq, Repr

/-- The plan blended with the reviews since the set. -/
def blendedMix (plannedQualityTenths : ℕ) (sinceSet : RatingTotals) : Ratio :=
  let weight := plannedAverageWeightReviews
  ratio (weight * plannedQualityTenths + 10 * sinceSet.sum) (10 * (weight + sinceSet.count))
    (by simp only [weight, plannedAverageWeightReviews]; omega)

/-- Reviews are too low when ten or more of them average at most the threshold. -/
theorem reviewsTooLow_iff {sinceSet : RatingTotals} {targetTenths : ℕ} :
    reviewsTooLow sinceSet targetTenths = true ↔ qualityVerdictMinReviews ≤ sinceSet.count ∧
      (sinceSet.sum : ℚ) / sinceSet.count ≤ thresholdOf targetTenths := by
  have hthreshold := thresholdThousandths_eq targetTenths
  rw [reviewsTooLow, clearsThreshold, Rat.mkRat_eq_div, Rat.mkRat_eq_div]
  simp [hthreshold]

theorem count_pos_of_reviewsTooLow {sinceSet : RatingTotals} {targetTenths : ℕ}
    (h : reviewsTooLow sinceSet targetTenths = true) : 0 < (sinceSet.count : ℤ) := by
  have hcount := (reviewsTooLow_iff.1 h).1
  rw [qualityVerdictMinReviews] at hcount
  omega

/-- The stars new reviews are expected to average. -/
def trackingMix (plannedQualityTenths : ℕ) (sinceSet : RatingTotals) (targetTenths : ℕ) :
    TrackingMix :=
  if tooLow : reviewsTooLow sinceSet targetTenths = true then
    { mix := ratio sinceSet.sum sinceSet.count (count_pos_of_reviewsTooLow tooLow)
      basis := .sinceSet }
  else if sinceSet.count = 0 then
    { mix := ratio plannedQualityTenths 10 ten_pos, basis := .planned }
  else
    let blend := blendedMix plannedQualityTenths sinceSet
    if qualityVerdictMinReviews ≤ sinceSet.count then { mix := blend, basis := .blended }
    else
      let floorTenths := min (plannedQualityTenths : ℤ) (minimumQualityTenths targetTenths)
      if 0 ≤ compareRatios blend (ratio floorTenths 10 ten_pos) then
        { mix := blend, basis := .blended }
      else
        { mix := ratio floorTenths 10 ten_pos
          basis := if floorTenths = plannedQualityTenths then .planned else .blended }

/-! ## The mix and the status -/

theorem blendedMix_eq {plannedQualityTenths : ℕ} {sinceSet : RatingTotals}
    (hcount : 0 < sinceSet.count) :
    blendedMix plannedQualityTenths sinceSet = weightedMean (plannedAverageWeightReviews : ℚ)
      (plannedQualityTenths / 10) sinceSet.count (sinceSet.sum / sinceSet.count) := by
  have hne : (sinceSet.count : ℚ) ≠ 0 := by exact_mod_cast Nat.pos_iff_ne_zero.1 hcount
  have hweight : (plannedAverageWeightReviews : ℚ) + sinceSet.count ≠ 0 := by positivity
  rw [blendedMix, ratio_eq, weightedMean]
  push_cast
  field_simp

/-- The mix in its four cases. -/
theorem trackingMix_eq (plannedQualityTenths : ℕ) (sinceSet : RatingTotals) (targetTenths : ℕ) :
    (trackingMix plannedQualityTenths sinceSet targetTenths).mix =
      if reviewsTooLow sinceSet targetTenths = true then (sinceSet.sum : ℚ) / sinceSet.count
      else if sinceSet.count = 0 then (plannedQualityTenths : ℚ) / 10
      else if qualityVerdictMinReviews ≤ sinceSet.count then
        blendedMix plannedQualityTenths sinceSet
      else max (blendedMix plannedQualityTenths sinceSet)
        (min (plannedQualityTenths : ℚ) (targetTenths + 1) / 10) := by
  simp only [trackingMix, compareRatios_nonneg_iff, ratio_eq, minimumQualityTenths_eq]
  push_cast
  split
  · rfl
  · split
    · rfl
    · split
      · rfl
      · split
        · next hfloor => exact (max_eq_left hfloor).symm
        · next hfloor => exact (max_eq_right (le_of_lt (not_le.1 hfloor))).symm

/-- A whole tenth above the target clears its threshold. -/
theorem thresholdOf_lt {targetTenths quality : ℕ} (hfloor : targetTenths + 1 ≤ quality) :
    thresholdOf targetTenths < (quality : ℚ) / 10 := by
  have hcast : (targetTenths : ℚ) + 1 ≤ quality := by exact_mod_cast hfloor
  rw [thresholdOf]
  linarith

/-- The mix clears the threshold exactly when the reviews are not too low. From the tenth review on
no floor is needed: the plan and the reviews both clear the threshold, and so does their mean. -/
theorem trackingMix_le_threshold_iff {targetTenths quality : ℕ} (sinceSet : RatingTotals)
    (hfloor : targetTenths + 1 ≤ quality) :
    (trackingMix quality sinceSet targetTenths).mix ≤ thresholdOf targetTenths ↔
      reviewsTooLow sinceSet targetTenths = true := by
  have hplan := thresholdOf_lt hfloor
  rw [trackingMix_eq]
  split
  · next hlow => simp [hlow, (reviewsTooLow_iff.1 hlow).2]
  · next hlow =>
    simp only [hlow, Bool.false_eq_true, iff_false, not_le]
    split
    · exact hplan
    · next hsome =>
      split
      · next hverdict =>
        have hown : thresholdOf targetTenths < (sinceSet.sum : ℚ) / sinceSet.count := by
          by_contra hle
          exact hlow (reviewsTooLow_iff.2 ⟨hverdict, not_lt.1 hle⟩)
        rw [blendedMix_eq (Nat.pos_of_ne_zero hsome)]
        exact lt_weightedMean (by norm_num [plannedAverageWeightReviews]) (Nat.cast_nonneg _)
          hplan (le_of_lt hown)
      · have hmin : min (quality : ℚ) (targetTenths + 1) = targetTenths + 1 :=
          min_eq_right (by exact_mod_cast hfloor)
        have hfloorClears := thresholdOf_lt (le_refl (targetTenths + 1))
        push_cast at hfloorClears
        rw [hmin]
        exact lt_of_lt_of_le hfloorClears (le_max_right _ _)

/-- The averages a goal's mix lies between: the plan, the target's minimum quality and, once there
are reviews since the set, their own average. -/
def trackedAverages (plannedQualityTenths : ℕ) (sinceSet : RatingTotals) (targetTenths : ℕ) :
    List ℚ :=
  [(plannedQualityTenths : ℚ) / 10, (minimumQualityTenths targetTenths : ℚ) / 10] ++
    if sinceSet.count = 0 then [] else [(sinceSet.sum : ℚ) / sinceSet.count]

theorem plan_mem_trackedAverages (plannedQualityTenths : ℕ) (sinceSet : RatingTotals)
    (targetTenths : ℕ) : (plannedQualityTenths : ℚ) / 10 ∈
      trackedAverages plannedQualityTenths sinceSet targetTenths := by
  simp [trackedAverages]

theorem minimum_mem_trackedAverages (plannedQualityTenths : ℕ) (sinceSet : RatingTotals)
    (targetTenths : ℕ) : ((targetTenths : ℚ) + 1) / 10 ∈
      trackedAverages plannedQualityTenths sinceSet targetTenths := by
  simp [trackedAverages, minimumQualityTenths_eq]

theorem own_mem_trackedAverages (plannedQualityTenths targetTenths : ℕ) {sinceSet : RatingTotals}
    (hsome : 0 < sinceSet.count) : (sinceSet.sum : ℚ) / sinceSet.count ∈
      trackedAverages plannedQualityTenths sinceSet targetTenths := by
  simp [trackedAverages, Nat.pos_iff_ne_zero.1 hsome]

/-- The blend is a mean of the plan and the reviews' own average. -/
theorem blendedMix_between (plannedQualityTenths targetTenths : ℕ) {sinceSet : RatingTotals}
    (hsome : 0 < sinceSet.count) :
    (∃ low ∈ trackedAverages plannedQualityTenths sinceSet targetTenths,
      low ≤ blendedMix plannedQualityTenths sinceSet) ∧
    ∃ high ∈ trackedAverages plannedQualityTenths sinceSet targetTenths,
      blendedMix plannedQualityTenths sinceSet ≤ high := by
  have hplan := plan_mem_trackedAverages plannedQualityTenths sinceSet targetTenths
  have hown := own_mem_trackedAverages plannedQualityTenths targetTenths hsome
  have hplanWeight : (0 : ℚ) ≤ plannedAverageWeightReviews := Nat.cast_nonneg _
  have hownWeight : (0 : ℚ) ≤ sinceSet.count := Nat.cast_nonneg _
  have hweight : (0 : ℚ) < plannedAverageWeightReviews + sinceSet.count := by
    rw [plannedAverageWeightReviews]
    positivity
  rw [blendedMix_eq hsome]
  constructor
  · rcases le_weightedMean_or hplanWeight hownWeight hweight with h | h
    · exact ⟨_, hplan, h⟩
    · exact ⟨_, hown, h⟩
  · rcases weightedMean_le_or hplanWeight hownWeight hweight with h | h
    · exact ⟨_, hplan, h⟩
    · exact ⟨_, hown, h⟩

/-- The mix is at least one of its averages and at most one of them. -/
theorem trackingMix_between {targetTenths quality : ℕ} (sinceSet : RatingTotals)
    (hfloor : targetTenths + 1 ≤ quality) :
    (∃ low ∈ trackedAverages quality sinceSet targetTenths,
      low ≤ (trackingMix quality sinceSet targetTenths).mix) ∧
    ∃ high ∈ trackedAverages quality sinceSet targetTenths,
      (trackingMix quality sinceSet targetTenths).mix ≤ high := by
  have hplan := plan_mem_trackedAverages quality sinceSet targetTenths
  have hminimum := minimum_mem_trackedAverages quality sinceSet targetTenths
  rw [trackingMix_eq]
  split
  · next hlow =>
    have hpos : 0 < sinceSet.count := by exact_mod_cast count_pos_of_reviewsTooLow hlow
    have hown := own_mem_trackedAverages quality targetTenths hpos
    exact ⟨⟨_, hown, le_refl _⟩, _, hown, le_refl _⟩
  · split
    · exact ⟨⟨_, hplan, le_refl _⟩, _, hplan, le_refl _⟩
    · next hsome =>
      have hblend := blendedMix_between quality targetTenths (Nat.pos_of_ne_zero hsome)
      split
      · exact hblend
      · -- The floor is the target's minimum quality, since the plan is not below it.
        have hmin : min (quality : ℚ) (targetTenths + 1) = targetTenths + 1 :=
          min_eq_right (by exact_mod_cast hfloor)
        rw [hmin]
        obtain ⟨⟨low, hlowMem, hlow⟩, high, hhighMem, hhigh⟩ := hblend
        refine ⟨⟨low, hlowMem, le_trans hlow (le_max_left _ _)⟩, ?_⟩
        rcases max_choice (blendedMix quality sinceSet) (((targetTenths : ℚ) + 1) / 10) with h | h
        · exact ⟨high, hhighMem, by rw [h]; exact hhigh⟩
        · exact ⟨_, hminimum, le_of_eq h⟩

/-- No average a mix rests on is above five stars. -/
theorem trackedAverages_le {targetTenths quality : ℕ} {sinceSet : RatingTotals}
    (hfloor : targetTenths + 1 ≤ quality) (hperfect : quality ≤ perfectTenths)
    (hstars : sinceSet.sum ≤ 5 * sinceSet.count) :
    ∀ average ∈ trackedAverages quality sinceSet targetTenths, average ≤ 5 := by
  have hfloorRat : (targetTenths : ℚ) + 1 ≤ quality := by exact_mod_cast hfloor
  have hperfectRat : (quality : ℚ) ≤ 50 := by exact_mod_cast hperfect
  have hstarsRat : (sinceSet.sum : ℚ) ≤ 5 * sinceSet.count := by exact_mod_cast hstars
  intro average hmem
  simp only [trackedAverages, minimumQualityTenths_eq] at hmem
  push_cast at hmem
  split at hmem
  · simp only [List.append_nil, List.mem_cons, List.not_mem_nil, or_false] at hmem
    rcases hmem with rfl | rfl <;> linarith
  · next hsome =>
    have hpos : (0 : ℚ) < sinceSet.count := by exact_mod_cast Nat.pos_of_ne_zero hsome
    simp only [List.cons_append, List.nil_append, List.mem_cons, List.not_mem_nil,
      or_false] at hmem
    rcases hmem with rfl | rfl | rfl
    · linarith
    · linarith
    · rw [div_le_iff₀ hpos]
      linarith

theorem reviewsNeeded_eq_unreachable_iff (reviewCount : ℕ) (exact mix : Ratio)
    (targetTenths : ℕ) :
    reviewsNeeded ⟨reviewCount, exact, thresholdThousandths targetTenths, mix⟩ = .unreachable ↔
      exact < thresholdOf targetTenths ∧ mix ≤ thresholdOf targetTenths := by
  rw [reviewsNeeded_eq, thresholdThousandths_eq, ← not_le]
  split
  · next hexact => simp [hexact]
  · next hexact => split <;> simp_all

/-- For a planned quality that passes for its target and reviews of at most five stars: below the
threshold no count at the tracked mix gets there exactly when the reviews are too low, the mix is at
most five stars, and it lies between the smallest and the largest of the plan, the target's minimum
quality and the reviews' own average. -/
theorem trackingMix_agrees_with_status (reviewCount targetTenths quality : ℕ) (exact : Ratio)
    (sinceSet : RatingTotals) (hquality : qualityProblem targetTenths (.finite quality) = none)
    (hstars : sinceSet.sum ≤ 5 * sinceSet.count) :
    (exact < thresholdOf targetTenths →
      (reviewsNeeded ⟨reviewCount, exact, thresholdThousandths targetTenths,
          (trackingMix quality sinceSet targetTenths).mix⟩ = .unreachable ↔
        reviewsTooLow sinceSet targetTenths = true)) ∧
    (trackingMix quality sinceSet targetTenths).mix ≤ 5 ∧
    (∃ low ∈ trackedAverages quality sinceSet targetTenths,
      low ≤ (trackingMix quality sinceSet targetTenths).mix) ∧
    ∃ high ∈ trackedAverages quality sinceSet targetTenths,
      (trackingMix quality sinceSet targetTenths).mix ≤ high := by
  obtain ⟨planned, hplanned, hfloor, hperfect⟩ := qualityProblem_eq_none_iff.1 hquality
  have hsame : quality = planned := by exact_mod_cast JsNumber.finite.inj hplanned
  subst hsame
  have hbetween := trackingMix_between sinceSet hfloor
  refine ⟨?_, ?_, hbetween⟩
  · intro hbelow
    rw [reviewsNeeded_eq_unreachable_iff, trackingMix_le_threshold_iff sinceSet hfloor]
    exact and_iff_right hbelow
  · obtain ⟨high, hmem, hhigh⟩ := hbetween.2
    exact le_trans hhigh (trackedAverages_le hfloor hperfect hstars high hmem)

/-- A goal of 4.5 planned at 4.8 whose twelve reviews average four stars cannot be reached. -/
theorem trackingMix_agrees_with_status_too_low :
    reviewsNeeded ⟨100, 4.3, thresholdThousandths 45, (trackingMix 48 ⟨12, 48⟩ 45).mix⟩ =
      .unreachable :=
  ((trackingMix_agrees_with_status 100 45 48 4.3 ⟨12, 48⟩ (by decide +kernel) (by decide)).1
    (by decide +kernel)).2 (by decide +kernel)

end ReputationKey.Reporting
