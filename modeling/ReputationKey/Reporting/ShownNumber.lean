import ReputationKey.Base.DoubleRounding
import ReputationKey.Reporting.GoalArrival

/-!
# Rating goals: the number Google shows and the number the reviews earn

Google's average is read to the nearest millionth and shown as a tenth, rounded half up. A goal
counts to the tenth above the one that the exact average has earned. Follows
`src/src/contexts/reporting/domain/rating-goal-numbers.ts:95–126` and
`src/src/contexts/reporting/domain/rating-goal-arrival.ts:150–183`.
-/

namespace ReputationKey.Reporting

open Base

/-! ## The number Google shows -/

/-- A value to the nearest millionth, which strips the float32 artefact. -/
def millionthsOf (value : ℚ) : ℤ := ⌊nearestDouble (value * 1000000) + 1 / 2⌋

/-- Where a shown tenth starts below it, in thousandths. -/
def displayThresholdOffsetThousandths : ℤ := 50

/-- The tenth Google shows for its average (45 = 4.5), rounded half up. -/
def displayedTenths (googleAverage : ℚ) : ℤ :=
  ⌊nearestDouble ((millionthsOf googleAverage + displayThresholdOffsetThousandths * 1000 : ℤ) /
    (1000000 / 10))⌋

/-- Where an average comes from: the reviews in the cache, or Google's own figure. -/
inductive AverageSource
  | cache
  | google
  deriving DecidableEq, Repr

structure ExactAverage where
  value : Ratio
  source : AverageSource
  deriving DecidableEq, Repr

/-- Google's count of reviews and its average. -/
structure GoogleFigures where
  reviewCount : ℕ
  averageRating : Option ℚ
  deriving DecidableEq, Repr

/-- The average a goal plans against: the sum over the count of a cache that holds every review
Google counts, otherwise Google's own figure. -/
def exactAverage (cache : RatingTotals) (google : GoogleFigures) : Option ExactAverage :=
  if held : 0 < cache.count ∧ cache.count = google.reviewCount then
    some ⟨ratio cache.sum cache.count (by exact_mod_cast held.1), .cache⟩
  else if google.reviewCount = 0 then none
  else
    google.averageRating.map fun averageRating ↦
      ⟨ratio (millionthsOf averageRating) 1000000 (by decide), .google⟩

/-! ## The number earned -/

/-- `RatingGoalNumbers` with the tenth Google shows. -/
structure ShownGoalNumbers extends RatingGoalNumbers where
  displayedTenths : ℕ
  deriving DecidableEq, Repr

/-- The loop of `earnedTenths`. -/
def earnedFrom (exact : Ratio) (earned : ℕ) : ℕ :=
  if earned < perfectTenths ∧
      0 ≤ compareRatios exact (fromThousandths (thresholdThousandths (earned + 1))) then
    earnedFrom exact (earned + 1)
  else earned
termination_by perfectTenths - earned

/-- The highest tenth the exact average already clears, else the shown one. -/
def earnedTenths (numbers : ShownGoalNumbers) : ℕ :=
  earnedFrom numbers.exact numbers.displayedTenths

structure NextNumber where
  /-- The tenth above what is earned, at most the goal. -/
  targetTenths : ℕ
  /-- A tenth the cache clears and Google does not show yet. -/
  soonTenths : Option ℕ
  deriving DecidableEq, Repr

/-- The next number a goal climbs to, or none once the reviews have earned the goal. -/
def nextNumber (numbers : ShownGoalNumbers) (targetTenths : ℕ) : Option NextNumber :=
  let earned := earnedTenths numbers
  if targetTenths ≤ earned then none
  else
    some ⟨min targetTenths (earned + 1), if numbers.displayedTenths < earned then some earned else none⟩

/-! ## Where a tenth starts -/

/-- A value's own tenth, half up. -/
def halfUpTenths (value : ℚ) : ℤ := ⌊value * 10 + 1 / 2⌋

/-- A tenth is at most a value's own exactly when the value is at its threshold. -/
theorem le_halfUpTenths_iff (targetTenths : ℕ) (value : ℚ) :
    (targetTenths : ℤ) ≤ halfUpTenths value ↔ thresholdOf targetTenths ≤ value := by
  rw [halfUpTenths, Int.le_floor, thresholdOf]
  push_cast
  constructor <;> intro h <;> linarith

theorem halfUpTenths_le_perfect {value : ℚ} (h : value ≤ 5) : halfUpTenths value ≤ perfectTenths := by
  have above : ¬ ((51 : ℕ) : ℤ) ≤ halfUpTenths value := by
    rw [le_halfUpTenths_iff, thresholdOf, not_le]
    norm_num
    linarith
  rw [perfectTenths]
  omega

/-- The whole arithmetic of the shown tenth: the division in doubles is that of whole numbers. -/
theorem displayedTenths_eq {average : ℚ} (low : 0 ≤ millionthsOf average)
    (high : millionthsOf average ≤ 5000000) :
    displayedTenths average = (millionthsOf average + 50000) / 100000 := by
  obtain ⟨m, hm⟩ := Int.eq_ofNat_of_zero_le low
  rw [hm] at high ⊢
  have quotient := floor_nearestDouble_div (a := m + 50000) (b := 100000) (by decide) (by decide)
    (by omega)
  rw [displayedTenths, hm, displayThresholdOffsetThousandths]
  norm_num at quotient ⊢
  exact quotient

/-- Google shows a tenth exactly when the average read from its figure is at the threshold. -/
theorem le_displayedTenths_iff {average : ℚ} (low : 0 ≤ millionthsOf average)
    (high : millionthsOf average ≤ 5000000) (targetTenths : ℕ) :
    (targetTenths : ℤ) ≤ displayedTenths average ↔
      thresholdOf targetTenths ≤ (millionthsOf average : ℚ) / 1000000 := by
  have cast : thresholdOf targetTenths ≤ (millionthsOf average : ℚ) / 1000000 ↔
      (targetTenths * 100000 : ℤ) ≤ millionthsOf average + 50000 := by
    rw [thresholdOf, le_div_iff₀ (by norm_num), ← Int.cast_le (R := ℚ)]
    push_cast
    constructor <;> intro h <;> linarith
  rw [displayedTenths_eq low high, cast, Int.le_ediv_iff_mul_le (by decide)]

/-- What Google's own figure is read as. -/
theorem exactAverage_google {cache : RatingTotals} {reviewCount : ℕ} {average value : ℚ}
    (h : exactAverage cache ⟨reviewCount, some average⟩ = some ⟨value, .google⟩) :
    value = (millionthsOf average : ℚ) / 1000000 := by
  simp only [exactAverage] at h
  split_ifs at h
  · simp at h
  · simp only [Option.map_some, Option.some.injEq, ExactAverage.mk.injEq, and_true] at h
    rw [← h, ratio_eq]
    norm_num

theorem millionthsOf_nonneg {average : ℚ} (h : 0 ≤ average) : 0 ≤ millionthsOf average := by
  have rounded : 0 ≤ nearestDouble (average * 1000000) := nearestDouble_nonneg (by positivity)
  rw [millionthsOf, Int.le_floor]
  push_cast
  linarith

/-! ## The loop -/

/-- The loop ends at the larger of the tenth it starts from and the average's own. -/
theorem earnedFrom_eq {exact : Ratio} (atMostFive : exact ≤ 5) (earned : ℕ) :
    (earnedFrom exact earned : ℤ) = max (earned : ℤ) (halfUpTenths exact) := by
  have perfect := halfUpTenths_le_perfect atMostFive
  induction earned using earnedFrom.induct exact with
  | case1 earned raised ih =>
      have clears : ((earned + 1 : ℕ) : ℤ) ≤ halfUpTenths exact := by
        rw [le_halfUpTenths_iff, ← thresholdThousandths_eq, ← fromThousandths_eq,
          ← compareRatios_nonneg_iff]
        exact raised.2
      rw [earnedFrom, if_pos raised, ih]
      omega
  | case2 earned stays =>
      rw [earnedFrom, if_neg stays]
      have below : ¬ ((earned + 1 : ℕ) : ℤ) ≤ halfUpTenths exact := by
        intro clears
        apply stays
        constructor
        · omega
        · rw [compareRatios_nonneg_iff, fromThousandths_eq, thresholdThousandths_eq,
            ← le_halfUpTenths_iff]
          exact clears
      omega

/-- A tenth is earned when Google shows it or the exact average is at its threshold. -/
theorem le_earnedTenths_iff {numbers : ShownGoalNumbers} (atMostFive : numbers.exact ≤ 5)
    (targetTenths : ℕ) :
    targetTenths ≤ earnedTenths numbers ↔
      targetTenths ≤ numbers.displayedTenths ∨ thresholdOf targetTenths ≤ numbers.exact := by
  have earned := earnedFrom_eq atMostFive numbers.displayedTenths
  rw [← le_halfUpTenths_iff, earnedTenths]
  omega

/-- A target needs no review at any mix exactly when the exact average is at its threshold. -/
theorem reviewsNeeded_eq_zero_iff {reviewCount : ℕ} (counted : 1 ≤ reviewCount) (exact : Ratio)
    (targetTenths : ℕ) (mix : Ratio) :
    reviewsNeeded ⟨reviewCount, exact, thresholdThousandths targetTenths, mix⟩ = .count 0 ↔
      thresholdOf targetTenths ≤ exact := by
  rw [← ReviewsNeeded.toENat_eq_coe_iff]
  have none := @needAt_eq_zero_iff ⟨reviewCount, exact⟩ counted targetTenths mix
  rw [needAt_eq_some_iff] at none
  exact none

/-- The same at every mix. -/
theorem needs_no_review_iff {reviewCount : ℕ} (counted : 1 ≤ reviewCount) (exact : Ratio)
    (targetTenths : ℕ) :
    (∀ mix, reviewsNeeded ⟨reviewCount, exact, thresholdThousandths targetTenths, mix⟩ = .count 0) ↔
      thresholdOf targetTenths ≤ exact := by
  constructor
  · intro h
    exact (reviewsNeeded_eq_zero_iff counted exact targetTenths 5).1 (h 5)
  · intro h mix
    exact (reviewsNeeded_eq_zero_iff counted exact targetTenths mix).2 h

/-- A goal is done exactly when its tenth is earned; otherwise it counts to a number above what is
earned and no higher than the goal. -/
theorem nextNumber_eq_none_iff {numbers : ShownGoalNumbers} {targetTenths : ℕ} :
    nextNumber numbers targetTenths = none ↔ targetTenths ≤ earnedTenths numbers := by
  simp [nextNumber]

theorem nextNumber_bounds {numbers : ShownGoalNumbers} {targetTenths : ℕ} {next : NextNumber}
    (h : nextNumber numbers targetTenths = some next) :
    earnedTenths numbers < next.targetTenths ∧ next.targetTenths ≤ targetTenths := by
  simp only [nextNumber] at h
  split at h
  · contradiction
  · obtain rfl := Option.some.inj h
    simp only
    omega

/-- With one review or more and an exact average of at most five stars. Where the average is
Google's own figure, Google shows a tenth exactly when the average is at its threshold, and so
exactly when it needs no review at any mix, and the earned tenth is the shown one. The earned tenth
is the larger of the shown one and the average's own. A goal counts to a number unless it is shown
or needs no review; that number is above every tenth shown or cleared, at most the goal, and at
every mix it needs a review and at most as many as the goal. -/
theorem shown_earned_needed_agree (numbers : ShownGoalNumbers) (counted : 1 ≤ numbers.reviewCount)
    (atMostFive : numbers.exact ≤ 5) :
    (∀ cache average, 0 ≤ average →
      exactAverage cache ⟨numbers.reviewCount, some average⟩ = some ⟨numbers.exact, .google⟩ →
      (∀ targetTenths : ℕ,
        ((targetTenths : ℤ) ≤ displayedTenths average ↔
          0 ≤ compareRatios numbers.exact (fromThousandths (thresholdThousandths targetTenths))) ∧
        ((targetTenths : ℤ) ≤ displayedTenths average ↔ ∀ mix, reviewsNeeded
          ⟨numbers.reviewCount, numbers.exact, thresholdThousandths targetTenths, mix⟩ = .count 0)) ∧
      (numbers.displayedTenths = displayedTenths average →
        earnedTenths numbers = numbers.displayedTenths)) ∧
    ((earnedTenths numbers : ℤ) = max (numbers.displayedTenths : ℤ) (halfUpTenths numbers.exact) ∧
      halfUpTenths numbers.exact ≤ perfectTenths) ∧
    ∀ targetTenths,
      (nextNumber numbers targetTenths = none ↔
        targetTenths ≤ numbers.displayedTenths ∨ ∀ mix, reviewsNeeded
          ⟨numbers.reviewCount, numbers.exact, thresholdThousandths targetTenths, mix⟩ = .count 0) ∧
      ∀ next, nextNumber numbers targetTenths = some next →
        next.targetTenths ≤ targetTenths ∧
        (∀ tenths, tenths ≤ numbers.displayedTenths ∨ thresholdOf tenths ≤ numbers.exact →
          tenths < next.targetTenths) ∧
        ∀ mix,
          1 ≤ (reviewsNeeded ⟨numbers.reviewCount, numbers.exact,
            thresholdThousandths next.targetTenths, mix⟩).toENat ∧
          (reviewsNeeded ⟨numbers.reviewCount, numbers.exact,
            thresholdThousandths next.targetTenths, mix⟩).toENat ≤
            (reviewsNeeded ⟨numbers.reviewCount, numbers.exact,
              thresholdThousandths targetTenths, mix⟩).toENat := by
  refine ⟨?_, ⟨earnedFrom_eq atMostFive numbers.displayedTenths, halfUpTenths_le_perfect atMostFive⟩,
    ?_⟩
  · intro cache average nonneg read
    have value := exactAverage_google read
    have low := millionthsOf_nonneg nonneg
    have high : millionthsOf average ≤ 5000000 := by
      rw [value, div_le_iff₀ (by norm_num)] at atMostFive
      norm_num at atMostFive
      exact_mod_cast atMostFive
    have shown : ∀ targetTenths : ℕ, (targetTenths : ℤ) ≤ displayedTenths average ↔
        thresholdOf targetTenths ≤ numbers.exact := by
      intro targetTenths
      rw [value]
      exact le_displayedTenths_iff low high targetTenths
    constructor
    · intro targetTenths
      rw [shown, compareRatios_nonneg_iff, fromThousandths_eq, thresholdThousandths_eq,
        needs_no_review_iff counted]
      exact ⟨Iff.rfl, Iff.rfl⟩
    · intro same
      apply le_antisymm
      · rcases (le_earnedTenths_iff atMostFive _).1 le_rfl with displayed | cleared
        · exact displayed
        · have := (shown _).2 cleared
          omega
      · exact (le_earnedTenths_iff atMostFive _).2 (Or.inl le_rfl)
  · intro targetTenths
    constructor
    · rw [nextNumber_eq_none_iff, le_earnedTenths_iff atMostFive, needs_no_review_iff counted]
    · intro next found
      obtain ⟨above, atMost⟩ := nextNumber_bounds found
      have notEarned : ¬ next.targetTenths ≤ earnedTenths numbers := Nat.not_le.2 above
      refine ⟨atMost, ?_, ?_⟩
      · intro tenths earned
        exact lt_of_le_of_lt ((le_earnedTenths_iff atMostFive tenths).2 earned) above
      · intro mix
        rw [le_earnedTenths_iff atMostFive, not_or] at notEarned
        constructor
        · rw [Order.one_le_iff_ne_zero]
          intro zero
          apply notEarned.2
          rw [← reviewsNeeded_eq_zero_iff counted _ _ mix]
          exact ReviewsNeeded.toENat_eq_coe_iff.1 zero
        · apply reviewsNeeded_mono counted _ le_rfl
          rw [thresholdThousandths_eq, thresholdThousandths_eq]
          exact thresholdOf_mono atMost

/-- Google's 3.9, a float32 artefact, is shown and earned as 3.9. Where Google shows 4.3 and the
cache has earned 4.4, a goal of 4.5 counts past it. -/
theorem shown_earned_needed_agree_soon :
    (((39 : ℕ) : ℤ) ≤ displayedTenths 3.900000095367431640625 ↔
        ∀ mix, reviewsNeeded ⟨40, 3.9, thresholdThousandths 39, mix⟩ = .count 0) ∧
      earnedTenths ⟨⟨40, 3.9⟩, 39⟩ = 39 ∧
      ((earnedTenths ⟨⟨40, 4.36⟩, 43⟩ : ℤ) = max (43 : ℤ) (halfUpTenths 4.36) ∧
        nextNumber ⟨⟨40, 4.36⟩, 43⟩ 45 = some ⟨45, some 44⟩) := by
  have google := (shown_earned_needed_agree ⟨⟨40, 3.9⟩, 39⟩ (by decide) (by norm_num)).1 ⟨0, 0⟩
    3.900000095367431640625 (by norm_num) (by decide +kernel)
  have earned := (shown_earned_needed_agree ⟨⟨40, 4.36⟩, 43⟩ (by decide) (by norm_num)).2.1.1
  refine ⟨(google.1 39).2, google.2 (by decide +kernel), earned, ?_⟩
  have own : halfUpTenths 4.36 = 44 := by decide +kernel
  have tenths : earnedTenths ⟨⟨40, 4.36⟩, 43⟩ = 44 := by
    rw [own] at earned
    exact_mod_cast earned
  simp [nextNumber, tenths]

end ReputationKey.Reporting
