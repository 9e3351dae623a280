import ReputationKey.Reporting.GoalMix

/-!
# Rating goals: when a goal arrives

The central time to a goal at an average and a pace, and its likely range: the average a tenth of a
star either way, at most five stars, and the pace ten percent either way. Follows
`src/src/contexts/reporting/domain/rating-goal-arrival.ts`.
-/

namespace ReputationKey.Reporting

open Base

/-! ## Arrival -/

/-- The forecast allows the average new reviews bring to drift this far either way. -/
def forecastMixDriftThousandths : ℤ := 100

/-- The forecast allows the pace to drift this far either way. -/
def forecastPaceDriftPercent : ℕ := 10

/-- The highest target a manager can pick. -/
def highestTargetTenths : ℕ := 49

/-- Days in a week, in the tenths a pace is stored in: one review a week is 10. -/
def daysPerTenthsAWeek : ℕ := 70

/-- The days of the pace window. -/
def paceWindowDays : ℕ := 28

def percent : ℕ := 100

/-- Google's count and the exact average. -/
structure RatingGoalNumbers where
  reviewCount : ℕ
  exact : Ratio
  deriving DecidableEq, Repr

/-- Days as an integer fraction. -/
structure DayFraction where
  num : ℕ
  den : ℕ
  deriving DecidableEq, Repr

/-- Reviews per a number of days. -/
structure PaceRate where
  reviews : ℕ
  perDays : ℕ
  deriving DecidableEq, Repr

/-- A chosen pace in tenths of a review a week. -/
def chosenRate (tenthsPerWeek : ℕ) : PaceRate := ⟨tenthsPerWeek, daysPerTenthsAWeek⟩

/-- The pace of the last 28 days. -/
def actualRate (reviewsLast28Days : ℕ) : PaceRate := ⟨reviewsLast28Days, paceWindowDays⟩

/-- When a goal arrives, or why it does not. -/
inductive Arrival
  /-- The average does not clear the goal: no pace reaches it. -/
  | unreachable
  /-- No reviews at this pace. -/
  | noPace
  /-- The cache already clears the goal; Google lags behind it. -/
  | earned
  /-- The central time and the likely range; `slow` is none when it is open. -/
  | days (central fast : DayFraction) (slow : Option DayFraction)
  deriving DecidableEq, Repr

/-- Reviews needed for a goal at an average; none when the average never gets there. -/
def needAt (numbers : RatingGoalNumbers) (targetTenths : ℕ) (mix : Ratio) : Option ℕ :=
  match reviewsNeeded ⟨numbers.reviewCount, numbers.exact, thresholdThousandths targetTenths,
    mix⟩ with
  | .unreachable => none
  | .count needed => some needed

/-- An average clears a goal by 0.15 stars, as a plan for it must. -/
def clears (targetTenths : ℕ) (mix : Ratio) : Bool :=
  decide (0 ≤ compareRatios mix (ratio (minimumQualityTenths targetTenths) 10 ten_pos))

/-- The days a count of reviews takes at a pace scaled by a percentage. -/
def daysFor (reviews : ℕ) (rate : PaceRate) (scale : ℕ) : DayFraction where
  num := reviews * rate.perDays * percent
  den := rate.reviews * scale

def atMostFiveStars (mix : Ratio) : Ratio := if 0 < compareRatios mix fiveStars then fiveStars else mix

/-- When a goal arrives at an average and a pace, or why it does not. -/
def arrivalDays (numbers : RatingGoalNumbers) (targetTenths : ℕ) (mix : Ratio) (rate : PaceRate) :
    Arrival :=
  if rate.reviews = 0 then .noPace
  else
    match needAt numbers targetTenths mix with
    | none => .unreachable
    | some 0 => .earned
    | some central =>
        let better := atMostFiveStars (shiftByThousandths mix forecastMixDriftThousandths)
        let worse := shiftByThousandths mix (-forecastMixDriftThousandths)
        let fastNeed := (needAt numbers targetTenths better).getD central
        let slowNeed := if clears targetTenths worse then needAt numbers targetTenths worse else none
        .days (daysFor central rate percent)
          (daysFor fastNeed rate (percent + forecastPaceDriftPercent))
          (slowNeed.map fun need ↦ daysFor need rate (percent - forecastPaceDriftPercent))

/-- The number above the goal. -/
structure NextUp where
  targetTenths : ℕ
  /-- Reviews from today to the number above the goal. -/
  total : ℕ
  /-- Of those, the ones after the goal itself. -/
  beyond : ℤ
  days : DayFraction
  deriving DecidableEq, Repr

/-- The number above the goal: offered while it is a target at all, the average clears it by 0.15
stars and there is a pace. -/
def nextUpAbove (numbers : RatingGoalNumbers) (targetTenths : ℕ) (mix : Ratio) (rate : PaceRate) :
    Option NextUp :=
  let up := targetTenths + 1
  if highestTargetTenths < up ∨ rate.reviews = 0 ∨ clears up mix = false then none
  else
    match needAt numbers up mix, needAt numbers targetTenths mix with
    | some total, some toGoal =>
        some { targetTenths := up, total, beyond := (total : ℤ) - toGoal
               days := daysFor total rate percent }
    | _, _ => none

/-! ## The order of the range -/

/-- A number of days as an exact number. -/
def DayFraction.value (days : DayFraction) : ℚ := (days.num : ℚ) / days.den

theorem needAt_eq_none_iff {numbers : RatingGoalNumbers} (targetTenths : ℕ) (mix : Ratio) :
    needAt numbers targetTenths mix = none ↔
      numbers.exact < thresholdOf targetTenths ∧ mix ≤ thresholdOf targetTenths := by
  rw [← reviewsNeeded_eq_unreachable_iff numbers.reviewCount, needAt]
  split <;> simp_all

theorem needAt_eq_some_iff {numbers : RatingGoalNumbers} {targetTenths : ℕ} {mix : Ratio} {k : ℕ} :
    needAt numbers targetTenths mix = some k ↔
      (reviewsNeeded ⟨numbers.reviewCount, numbers.exact, thresholdThousandths targetTenths,
        mix⟩).toENat = k := by
  rw [ReviewsNeeded.toENat_eq_coe_iff, needAt]
  split <;> simp_all

theorem needAt_eq_zero_iff {numbers : RatingGoalNumbers} (hcount : 1 ≤ numbers.reviewCount)
    (targetTenths : ℕ) (mix : Ratio) :
    needAt numbers targetTenths mix = some 0 ↔ thresholdOf targetTenths ≤ numbers.exact := by
  have hpos : (0 : ℚ) < numbers.reviewCount := by exact_mod_cast hcount
  rw [needAt_eq_some_iff, reviewsNeeded_toENat hcount, thresholdThousandths_eq,
    leastWeight_eq_coe_iff hpos, ← zero_mem_liftingWeights (b := mix) hpos]
  constructor
  · intro h
    exact h.1
  · intro h
    exact ⟨h, fun _ _ ↦ Nat.zero_le _⟩

/-- A better mix and a lower target need at most as many reviews. -/
theorem needAt_mono {numbers : RatingGoalNumbers} (hcount : 1 ≤ numbers.reviewCount)
    {targetTenths higherTenths : ℕ} {mix better : Ratio} {k : ℕ}
    (htarget : targetTenths ≤ higherTenths) (hmix : mix ≤ better)
    (hneed : needAt numbers higherTenths mix = some k) :
    ∃ n, needAt numbers targetTenths better = some n ∧ n ≤ k := by
  have hthreshold : ((thresholdThousandths targetTenths : ℤ) : ℚ) / 1000 ≤
      ((thresholdThousandths higherTenths : ℤ) : ℚ) / 1000 := by
    rw [thresholdThousandths_eq, thresholdThousandths_eq]
    exact thresholdOf_mono htarget
  have hmono := reviewsNeeded_mono hcount numbers.exact hmix hthreshold
  rw [needAt_eq_some_iff.1 hneed] at hmono
  obtain ⟨n, hn, hle⟩ := ENat.le_natCast_iff.1 hmono
  exact ⟨n, needAt_eq_some_iff.2 hn, hle⟩

theorem clears_iff {targetTenths : ℕ} {mix : Ratio} :
    clears targetTenths mix = true ↔ thresholdOf targetTenths + 0.15 ≤ mix := by
  rw [clears, decide_eq_true_eq, compareRatios_nonneg_iff, ratio_eq, minimumQualityTenths_eq,
    thresholdOf]
  push_cast
  constructor <;> intro h <;> linarith

/-- Fewer reviews at a quicker pace take less time. -/
theorem daysFor_mono {rate : PaceRate} (hrate : 1 ≤ rate.reviews) {k n scale slower : ℕ}
    (hle : k ≤ n) (hscale : slower ≤ scale) (hpos : 0 < slower) :
    (daysFor k rate scale).value ≤ (daysFor n rate slower).value := by
  have hnum : ((daysFor k rate scale).num : ℚ) ≤ (daysFor n rate slower).num := by
    simp only [daysFor]
    gcongr
  have hden : ((daysFor n rate slower).den : ℚ) ≤ (daysFor k rate scale).den := by
    simp only [daysFor]
    gcongr
  have hdenPos : (0 : ℚ) < (daysFor n rate slower).den := by
    have := Nat.mul_pos hrate hpos
    exact_mod_cast this
  exact div_le_div₀ (Nat.cast_nonneg _) hnum hdenPos hden

/-- A mix of at most five stars is at most its better end. -/
theorem le_atMostFiveStars {mix : Ratio} (hmix : mix ≤ 5) :
    mix ≤ atMostFiveStars (shiftByThousandths mix forecastMixDriftThousandths) := by
  rw [atMostFiveStars]
  split
  · rw [fiveStars_eq]
    exact hmix
  · rw [shiftByThousandths_eq, forecastMixDriftThousandths]
    norm_num

/-- A mix above the threshold of a target the average has not met takes days, in this range. -/
theorem arrivalDays_days {numbers : RatingGoalNumbers} {targetTenths : ℕ} {mix : Ratio}
    {rate : PaceRate} (hcount : 1 ≤ numbers.reviewCount) (hmix : mix ≤ 5)
    (hrate : 1 ≤ rate.reviews) (hexact : numbers.exact < thresholdOf targetTenths)
    (habove : thresholdOf targetTenths < mix) :
    ∃ central fast slow, arrivalDays numbers targetTenths mix rate = .days central fast slow ∧
      fast.value ≤ central.value ∧ (∀ late ∈ slow, central.value ≤ late.value) ∧
      (slow = none ↔ ¬ thresholdOf targetTenths + 0.15 ≤ mix - 0.1) := by
  have hworse : shiftByThousandths mix (-forecastMixDriftThousandths) = mix - 0.1 := by
    rw [shiftByThousandths_eq, forecastMixDriftThousandths]
    norm_num [sub_eq_add_neg]
  cases hneed : needAt numbers targetTenths mix with
  | none => exact absurd ((needAt_eq_none_iff _ _).1 hneed).2 (not_le.2 habove)
  | some central =>
    have hcentral : central ≠ 0 := by
      rintro rfl
      exact absurd ((needAt_eq_zero_iff hcount _ _).1 hneed) (not_le.2 hexact)
    obtain ⟨quick, hquick, hquickLe⟩ := needAt_mono hcount (le_refl targetTenths)
      (le_atMostFiveStars hmix) hneed
    obtain ⟨central, rfl⟩ := Nat.exists_eq_succ_of_ne_zero hcentral
    have hreviews : rate.reviews ≠ 0 := by omega
    simp only [arrivalDays, if_neg hreviews, hneed, hquick, Option.getD_some, hworse]
    refine ⟨_, _, _, rfl, daysFor_mono hrate hquickLe (by decide) (by decide), ?_, ?_⟩
    · intro late hlate
      split at hlate
      · obtain ⟨slow, hslow, rfl⟩ := Option.mem_map.1 hlate
        obtain ⟨n, hn, hle⟩ := needAt_mono hcount (le_refl targetTenths)
          (show mix - 0.1 ≤ mix by linarith) hslow
        rw [hneed] at hn
        cases hn
        exact daysFor_mono hrate hle (by decide) (by decide)
      · cases hlate
    · rw [← clears_iff]
      split
      · next hclears =>
        have hmargin := clears_iff.1 hclears
        have hsome : needAt numbers targetTenths (mix - 0.1) ≠ none := by
          intro hnone
          have := ((needAt_eq_none_iff _ _).1 hnone).2
          linarith
        simp [hsome, hclears]
      · next hclears => simp [hclears]

theorem nextUpAbove_ge {numbers : RatingGoalNumbers} {targetTenths : ℕ} {mix : Ratio}
    {rate : PaceRate} {next : NextUp} (hcount : 1 ≤ numbers.reviewCount)
    (h : nextUpAbove numbers targetTenths mix rate = some next) :
    ∃ need, needAt numbers targetTenths mix = some need ∧ need ≤ next.total ∧ 0 ≤ next.beyond := by
  simp only [nextUpAbove] at h
  split at h
  · cases h
  · split at h
    · next total toGoal htotal hgoal =>
      cases h
      obtain ⟨need, hneed, hle⟩ := needAt_mono hcount (Nat.le_succ targetTenths) (le_refl mix) htotal
      rw [hgoal] at hneed
      cases hneed
      exact ⟨_, hgoal, hle, Int.sub_nonneg_of_le (by exact_mod_cast hle)⟩
    · cases h

/-- With one review or more, a mix of at most five stars and a pace of one review or more: the goal
is earned exactly when the average meets the threshold, and unreachable exactly when it does not and
the mix does not exceed it. Otherwise it takes days, the quick end at most the central time, and the
slow end at least the central time or open exactly when a tenth of a star less no longer clears the
target by 0.15 stars. The number above the goal never needs fewer reviews than the goal. -/
theorem arrivalDays_ordered (numbers : RatingGoalNumbers) (targetTenths : ℕ) (mix : Ratio)
    (rate : PaceRate) (hcount : 1 ≤ numbers.reviewCount) (hmix : mix ≤ 5)
    (hrate : 1 ≤ rate.reviews) :
    (arrivalDays numbers targetTenths mix rate = .earned ↔
      thresholdOf targetTenths ≤ numbers.exact) ∧
    (arrivalDays numbers targetTenths mix rate = .unreachable ↔
      numbers.exact < thresholdOf targetTenths ∧ mix ≤ thresholdOf targetTenths) ∧
    (numbers.exact < thresholdOf targetTenths → thresholdOf targetTenths < mix →
      ∃ central fast slow, arrivalDays numbers targetTenths mix rate = .days central fast slow ∧
        fast.value ≤ central.value ∧ (∀ late ∈ slow, central.value ≤ late.value) ∧
        (slow = none ↔ ¬ thresholdOf targetTenths + 0.15 ≤ mix - 0.1)) ∧
    ∀ next, nextUpAbove numbers targetTenths mix rate = some next →
      ∃ need, needAt numbers targetTenths mix = some need ∧ need ≤ next.total ∧
        0 ≤ next.beyond := by
  have hreviews : rate.reviews ≠ 0 := by omega
  refine ⟨?_, ?_, arrivalDays_days hcount hmix hrate, fun _ ↦ nextUpAbove_ge hcount⟩
  · rw [← needAt_eq_zero_iff hcount targetTenths mix, arrivalDays, if_neg hreviews]
    split <;> simp_all
  · rw [← needAt_eq_none_iff targetTenths mix, arrivalDays, if_neg hreviews]
    split <;> simp_all

/-- A goal of 4.5 at 4.65 stars and two reviews a week: the slow end is open. -/
theorem arrivalDays_ordered_open :
    (arrivalDays ⟨40, 4.3⟩ 45 4.65 (chosenRate 20) = .unreachable ↔
      (4.3 : ℚ) < thresholdOf 45 ∧ (4.65 : ℚ) ≤ thresholdOf 45) ∧
    arrivalDays ⟨40, 4.3⟩ 45 4.65 (chosenRate 20) = .days ⟨210000, 2000⟩ ⟨140000, 2200⟩ none :=
  ⟨(arrivalDays_ordered ⟨40, 4.3⟩ 45 4.65 (chosenRate 20) (by decide) (by norm_num)
    (by decide)).2.1, by decide +kernel⟩

end ReputationKey.Reporting
