import ReputationKey.Reporting.GoalMix

/-!
# Rating goals: what set a goal back

A review sets a goal back by what the goal needs today less what it would need without the review.
The page names the low reviews that set it back by half a review or more, and reads only below a
bound that the numbers give. Follows `src/src/contexts/reporting/domain/rating-goal-setback.ts`.
-/

namespace ReputationKey.Reporting

/-- The page names this many low reviews at most. -/
def lowReviewRows : ℕ := 10

/-- Half a review: a setback from here reads "about 1". -/
def halfReview : Ratio := ratio 1 2 (by decide)

/-- What a setback is worked out from. -/
structure SetbackNumbers where
  reviewCount : ℕ
  exact : Ratio
  sinceSet : RatingTotals
  qualityTenths : ℕ
  targetTenths : ℕ
  deriving DecidableEq, Repr

/-- What the goal needs today; none without a count. -/
def needToday (numbers : SetbackNumbers) : Option Ratio :=
  needExact numbers.reviewCount numbers.exact (thresholdThousandths numbers.targetTenths)
    (trackingMix numbers.qualityTenths numbers.sinceSet numbers.targetTenths).mix

/-- The exact average of the reviews without one of them. -/
def exactWithout (numbers : SetbackNumbers) (stars : ℕ) (several : 2 ≤ numbers.reviewCount) : Ratio :=
  let starSum := ratio (numbers.exact.num * numbers.reviewCount) numbers.exact.den
    (by exact_mod_cast numbers.exact.den_pos)
  ratio (starSum.num - stars * starSum.den) (starSum.den * (numbers.reviewCount - 1))
    (by have := starSum.den_pos; exact Int.mul_pos (by omega) (by omega))

/-- The numbers without one review; none when they cannot have held it. -/
def without (numbers : SetbackNumbers) (stars : ℕ) : Option SetbackNumbers :=
  if several : 2 ≤ numbers.reviewCount then
    let starSum := ratio (numbers.exact.num * numbers.reviewCount) numbers.exact.den
      (by exact_mod_cast numbers.exact.den_pos)
    if starSum.num - stars * starSum.den < 0 then none
    else if numbers.sinceSet.count < 1 ∨ numbers.sinceSet.sum < stars then none
    else
      some { numbers with
        reviewCount := numbers.reviewCount - 1
        exact := exactWithout numbers stars several
        sinceSet := ⟨numbers.sinceSet.count - 1, numbers.sinceSet.sum - stars⟩ }
  else none

/-- What one review of these stars added to what the goal needs today. -/
def setbackOf (numbers : SetbackNumbers) (stars : ℕ) : Option Ratio :=
  match needToday numbers, (without numbers stars).bind needToday with
  | some today, some withoutIt =>
      some (ratio (today.num * withoutIt.den - withoutIt.num * today.den) (today.den * withoutIt.den)
        (by have := today.den_pos; have := withoutIt.den_pos; positivity))
  | _, _ => none

/-- The low stars a review may have. -/
def lowStars : List ℕ := [4, 3, 2, 1]

/-- Whether a review of these stars sets the goal back by half a review or more. -/
def setsBack (numbers : SetbackNumbers) (stars : ℕ) : Bool :=
  (setbackOf numbers stars).any fun setback ↦ decide (0 ≤ compareRatios setback halfReview)

/-- The bound a read of low reviews takes, in thousandths; none when no review can be named. -/
def lowReviewReadBelow (numbers : SetbackNumbers) : Option ℤ :=
  let threshold := thresholdThousandths numbers.targetTenths
  if needToday numbers = none then some threshold
  else (lowStars.find? (setsBack numbers)).map fun most ↦ min threshold ((most + 1) * 1000)

/-- A ratio as a whole number, half up. -/
def wholeHalfUp (value : Ratio) : ℤ := (2 * value.num + value.den).tdiv (2 * value.den)

/-- The low reviews the page names, each with what it set the goal back. -/
def whatSetYouBack {R : Type*} (stars : R → ℕ) (numbers : SetbackNumbers) (reviews : List R) :
    List (R × Option ℤ) :=
  if needToday numbers = none then (reviews.take lowReviewRows).map fun review ↦ (review, none)
  else
    (reviews.flatMap fun review ↦
      match setbackOf numbers (stars review) with
      | none => []
      | some setback =>
          if compareRatios setback halfReview < 0 then []
          else [(review, some (wholeHalfUp setback))]).take lowReviewRows

/-- The reviews a read below a bound gives. -/
def readBelow {R : Type*} (stars : R → ℕ) (bound : Option ℤ) (reviews : List R) : List R :=
  reviews.filter fun review ↦ bound.any fun below ↦ decide ((stars review : ℤ) * 1000 < below)

/-! ## A better mix and a better average need less -/

/-- What a goal needs, with its three cases. -/
theorem needToday_eq (numbers : SetbackNumbers) : needToday numbers =
    if thresholdOf numbers.targetTenths ≤ numbers.exact then some 0
    else if (trackingMix numbers.qualityTenths numbers.sinceSet numbers.targetTenths).mix ≤
        thresholdOf numbers.targetTenths then none
    else some (numbers.reviewCount * (thresholdOf numbers.targetTenths - numbers.exact) /
      ((trackingMix numbers.qualityTenths numbers.sinceSet numbers.targetTenths).mix -
        thresholdOf numbers.targetTenths)) := by
  rw [needToday, needExact_eq, thresholdThousandths_eq]

/-- More stars over as many reviews are too low only if fewer are. -/
theorem reviewsTooLow_of_le {count sum sum' targetTenths : ℕ} (hsum : sum ≤ sum')
    (hlow : reviewsTooLow ⟨count, sum'⟩ targetTenths = true) :
    reviewsTooLow ⟨count, sum⟩ targetTenths = true := by
  rw [reviewsTooLow_iff] at hlow ⊢
  refine ⟨hlow.1, le_trans ?_ hlow.2⟩
  apply div_le_div_of_nonneg_right _ (Nat.cast_nonneg count)
  exact_mod_cast hsum

theorem blendedMix_mono {plannedQualityTenths count sum sum' : ℕ} (hsum : sum ≤ sum') :
    blendedMix plannedQualityTenths ⟨count, sum⟩ ≤ blendedMix plannedQualityTenths ⟨count, sum'⟩ := by
  have hcast : (sum : ℚ) ≤ sum' := by exact_mod_cast hsum
  rw [blendedMix, blendedMix, ratio_eq, ratio_eq]
  push_cast
  apply div_le_div_of_nonneg_right
  · linarith
  · positivity

/-- While the reviews are not too low, the mix grows with their stars. -/
theorem trackingMix_mono (plannedQualityTenths : ℕ) {count sum sum' targetTenths : ℕ}
    (hsum : sum ≤ sum')
    (hhigh : reviewsTooLow ⟨count, sum⟩ targetTenths ≠ true) :
    (trackingMix plannedQualityTenths ⟨count, sum⟩ targetTenths).mix ≤
      (trackingMix plannedQualityTenths ⟨count, sum'⟩ targetTenths).mix := by
  have hhigh' : reviewsTooLow ⟨count, sum'⟩ targetTenths ≠ true :=
    fun hlow ↦ hhigh (reviewsTooLow_of_le hsum hlow)
  rw [trackingMix_eq, trackingMix_eq, if_neg hhigh, if_neg hhigh']
  split
  · exact le_refl _
  · split
    · exact blendedMix_mono hsum
    · exact max_le_max (blendedMix_mono hsum) (le_refl _)

/-- With a better average and more stars since the set, a goal that can be reached needs no more. -/
theorem needToday_mono {numbers : SetbackNumbers} {exact' : Ratio} {sum' : ℕ} {need : Ratio}
    (hexact : numbers.exact ≤ exact') (hsum : numbers.sinceSet.sum ≤ sum')
    (h : needToday numbers = some need) : ∃ need', needToday { numbers with
      exact := exact'
      sinceSet := ⟨numbers.sinceSet.count, sum'⟩ } = some need' ∧ need' ≤ need := by
  obtain ⟨reviewCount, exact, ⟨count, sum⟩, qualityTenths, targetTenths⟩ := numbers
  simp only at hexact hsum ⊢
  rw [needToday_eq] at h ⊢
  simp only at h ⊢
  by_cases hmet : thresholdOf targetTenths ≤ exact
  · rw [if_pos hmet] at h
    rw [if_pos (le_trans hmet hexact)]
    exact ⟨0, rfl, le_of_eq (Option.some.inj h)⟩
  · rw [if_neg hmet] at h
    split at h
    · cases h
    next hmix =>
    have hhigh : reviewsTooLow ⟨count, sum⟩ targetTenths ≠ true := by
      intro hlow
      apply hmix
      rw [trackingMix_eq, if_pos hlow]
      exact (reviewsTooLow_iff.1 hlow).2
    have hmono := trackingMix_mono qualityTenths hsum hhigh
    have hpos : 0 < (trackingMix qualityTenths ⟨count, sum⟩ targetTenths).mix -
        thresholdOf targetTenths := sub_pos.2 (not_le.1 hmix)
    have hlack : 0 ≤ (reviewCount : ℚ) * (thresholdOf targetTenths - exact) :=
      mul_nonneg reviewCount.cast_nonneg (by linarith [not_le.1 hmet])
    obtain rfl := Option.some.inj h
    by_cases hmet' : thresholdOf targetTenths ≤ exact'
    · rw [if_pos hmet']
      exact ⟨0, rfl, div_nonneg hlack (le_of_lt hpos)⟩
    · rw [if_neg hmet', if_neg (by linarith)]
      refine ⟨_, rfl, ?_⟩
      apply div_le_div₀ hlack _ hpos (by linarith)
      apply mul_le_mul_of_nonneg_left _ reviewCount.cast_nonneg
      linarith

/-! ## Setbacks -/

theorem setbackOf_eq_some_iff {numbers : SetbackNumbers} {stars : ℕ} {setback : Ratio} :
    setbackOf numbers stars = some setback ↔ ∃ today withoutIt before,
      needToday numbers = some today ∧ without numbers stars = some before ∧
        needToday before = some withoutIt ∧ setback = today - withoutIt := by
  have hvalue : ∀ today withoutIt : Ratio, ∀ hpos, ratio (today.num * withoutIt.den -
      withoutIt.num * today.den) (today.den * withoutIt.den) hpos = today - withoutIt := by
    intro today withoutIt hpos
    have hden : (((today.den : ℤ) * withoutIt.den : ℤ) : ℚ) ≠ 0 := by exact_mod_cast ne_of_gt hpos
    rw [ratio_eq, div_eq_iff hden]
    exact difference_num_eq today withoutIt
  rw [setbackOf]
  split
  · next today withoutIt htoday hwithout =>
    obtain ⟨before, hbefore, hneed⟩ := Option.bind_eq_some_iff.1 hwithout
    rw [hvalue]
    constructor
    · intro h
      exact ⟨today, withoutIt, before, htoday, hbefore, hneed, (Option.some.inj h).symm⟩
    · rintro ⟨today', withoutIt', before', htoday', hbefore', hneed', rfl⟩
      rw [htoday] at htoday'
      rw [hbefore] at hbefore'
      obtain rfl := Option.some.inj htoday'
      obtain rfl := Option.some.inj hbefore'
      rw [hneed] at hneed'
      rw [Option.some.inj hneed']
  · next hnone =>
    constructor
    · intro h
      cases h
    · rintro ⟨today, withoutIt, before, htoday, hbefore, hneed, _⟩
      exact absurd (by rw [hbefore]; exact hneed) (hnone today withoutIt htoday)

/-- The average without a review, from its stars. -/
theorem exactWithout_eq (numbers : SetbackNumbers) (stars : ℕ) (several : 2 ≤ numbers.reviewCount) :
    exactWithout numbers stars several =
      (numbers.exact * numbers.reviewCount - stars) / (numbers.reviewCount - 1) := by
  have hcount : ((numbers.reviewCount : ℚ) - 1) ≠ 0 := by
    have hcast : (2 : ℚ) ≤ numbers.reviewCount := by exact_mod_cast several
    linarith
  have hden : (numbers.exact.den : ℚ) ≠ 0 := by exact_mod_cast numbers.exact.den_nz
  have hsum : ratio (numbers.exact.num * numbers.reviewCount) numbers.exact.den
      (by exact_mod_cast numbers.exact.den_pos) = numbers.exact * numbers.reviewCount := by
    rw [ratio_eq]
    push_cast
    have hnum : (numbers.exact.num : ℚ) = numbers.exact * numbers.exact.den :=
      (Rat.mul_den_eq_num _).symm
    rw [hnum]
    field_simp
  simp only [exactWithout, hsum]
  rw [ratio_eq]
  push_cast
  have hnum : ((numbers.exact * numbers.reviewCount).num : ℚ) =
      numbers.exact * numbers.reviewCount * (numbers.exact * numbers.reviewCount).den :=
    (Rat.mul_den_eq_num _).symm
  have hsumDen : ((numbers.exact * numbers.reviewCount).den : ℚ) ≠ 0 := by
    exact_mod_cast Rat.den_nz _
  rw [hnum]
  field_simp

/-- What is left without a review. -/
theorem without_eq_some {numbers before : SetbackNumbers} {stars : ℕ}
    (h : without numbers stars = some before) : ∃ several : 2 ≤ numbers.reviewCount,
      stars ≤ numbers.sinceSet.sum ∧ before = { numbers with
        reviewCount := numbers.reviewCount - 1
        exact := exactWithout numbers stars several
        sinceSet := ⟨numbers.sinceSet.count - 1, numbers.sinceSet.sum - stars⟩ } := by
  rw [without] at h
  split at h
  · next several =>
    simp only at h
    split at h
    · cases h
    split at h
    · cases h
    next hsums =>
    exact ⟨several, by omega, (Option.some.inj h).symm⟩
  · cases h

/-- A review of fewer stars sets the goal back at least as much. -/
theorem setbackOf_antitone {numbers : SetbackNumbers} {stars stars' : ℕ} (hstars : stars ≤ stars')
    (hremoved : without numbers stars ≠ none) {setback' : Ratio}
    (hsetback : setbackOf numbers stars' = some setback') :
    ∃ setback, setbackOf numbers stars = some setback ∧ setback' ≤ setback := by
  obtain ⟨today, withoutIt', before', htoday, hbefore', hneed', rfl⟩ :=
    setbackOf_eq_some_iff.1 hsetback
  obtain ⟨before, hbefore⟩ := Option.ne_none_iff_exists'.1 hremoved
  obtain ⟨several, _, hbeforeEq⟩ := without_eq_some hbefore
  obtain ⟨_, _, hbeforeEq'⟩ := without_eq_some hbefore'
  have hexact : before'.exact ≤ before.exact := by
    rw [hbeforeEq, hbeforeEq']
    simp only [exactWithout_eq]
    have hcast : (2 : ℚ) ≤ numbers.reviewCount := by exact_mod_cast several
    have hstarsCast : (stars : ℚ) ≤ stars' := by exact_mod_cast hstars
    apply div_le_div_of_nonneg_right _ (by linarith)
    linarith
  have hsum : before'.sinceSet.sum ≤ numbers.sinceSet.sum - stars := by
    rw [hbeforeEq']
    exact Nat.sub_le_sub_left hstars _
  obtain ⟨withoutIt, hneed, hle⟩ := needToday_mono hexact hsum hneed'
  have hsame : before = { before' with
      exact := before.exact
      sinceSet := ⟨before'.sinceSet.count, numbers.sinceSet.sum - stars⟩ } := by
    rw [hbeforeEq, hbeforeEq']
  rw [← hsame] at hneed
  exact ⟨today - withoutIt, setbackOf_eq_some_iff.2 ⟨today, withoutIt, before, htoday, hbefore, hneed,
    rfl⟩, by linarith⟩

/-! ## The bound of the read -/

/-- A review that is named has stars below the bound. -/
theorem setsBack_below {numbers : SetbackNumbers} {stars : ℕ} (hlow : stars ∈ lowStars)
    (hbelow : (stars : ℤ) * 1000 < thresholdThousandths numbers.targetTenths)
    (hsets : setsBack numbers stars = true) (hneed : needToday numbers ≠ none) :
    ∃ below, lowReviewReadBelow numbers = some below ∧ (stars : ℤ) * 1000 < below := by
  rw [lowReviewReadBelow]
  simp only [if_neg hneed]
  cases hmost : lowStars.find? (setsBack numbers) with
  | none =>
      rw [List.find?_eq_none] at hmost
      exact absurd hsets (hmost stars hlow)
  | some most =>
      refine ⟨_, rfl, lt_min hbelow ?_⟩
      -- The stars are tried from the most down, so no more stars than these set the goal back.
      have hle : stars ≤ most := by
        simp only [lowStars, List.find?_cons] at hmost
        simp only [lowStars, List.mem_cons, List.not_mem_nil, or_false] at hlow
        rcases hlow with rfl | rfl | rfl | rfl <;> grind
      omega

/-- For every list of low reviews below the target's threshold the read bound loses none that the page
names, nor their setbacks and order; and of two reviews that can both be taken off the numbers, the
one with fewer stars sets the goal back whenever the other does, and by at least as much. -/
theorem lowReviewReadBelow_loses_nothing {R : Type*} (stars : R → ℕ) (numbers : SetbackNumbers)
    (reviews : List R) (hlow : ∀ review ∈ reviews, 1 ≤ stars review ∧ stars review ≤ 4 ∧
      (stars review : ℤ) * 1000 < thresholdThousandths numbers.targetTenths) :
    whatSetYouBack stars numbers (readBelow stars (lowReviewReadBelow numbers) reviews) =
      whatSetYouBack stars numbers reviews ∧
    ∀ fewer more, fewer < more → without numbers fewer ≠ none → without numbers more ≠ none →
      ∀ setback', setbackOf numbers more = some setback' →
        ∃ setback, setbackOf numbers fewer = some setback ∧ setback' ≤ setback := by
  refine ⟨?_, fun fewer more hlt hfewer _ setback' hsetback ↦
    setbackOf_antitone (le_of_lt hlt) hfewer hsetback⟩
  by_cases hneed : needToday numbers = none
  · have hall : readBelow stars (lowReviewReadBelow numbers) reviews = reviews := by
      rw [readBelow, List.filter_eq_self]
      intro review hmem
      rw [lowReviewReadBelow]
      simp only [if_pos hneed, Option.any_some, decide_eq_true_eq]
      exact (hlow review hmem).2.2
    rw [hall]
  · rw [whatSetYouBack, whatSetYouBack, if_neg hneed, if_neg hneed]
    congr 1
    induction reviews with
    | nil => rfl
    | cons review rest ih =>
        have hrest := ih fun r hr ↦ hlow r (List.mem_cons_of_mem _ hr)
        obtain ⟨hone, hfour, hbelow⟩ := hlow review List.mem_cons_self
        have hmem : stars review ∈ lowStars := by
          simp only [lowStars, List.mem_cons, List.not_mem_nil, or_false]
          omega
        rw [readBelow] at hrest ⊢
        rw [List.filter_cons]
        split
        · rw [List.flatMap_cons, List.flatMap_cons, hrest]
        · next hcut =>
          rw [List.flatMap_cons, hrest]
          -- A review that the bound leaves out is not named.
          have hnot : setsBack numbers (stars review) ≠ true := by
            intro hsets
            obtain ⟨below, hbound, hlt⟩ := setsBack_below hmem hbelow hsets hneed
            rw [hbound] at hcut
            simp [hlt] at hcut
          cases hsetback : setbackOf numbers (stars review) with
          | none => rfl
          | some setback =>
              rw [setsBack, hsetback, Option.any_some, ne_eq, decide_eq_true_eq, not_le] at hnot
              simp only [if_pos hnot, List.nil_append]

/-- A Property that shows 4.0 with a goal of 4.1. -/
def nearlyThere : SetbackNumbers := ⟨40, 4.04, ⟨9, 40⟩, 48, 41⟩

theorem lowReviewReadBelow_loses_nothing_two :
    readBelow id (lowReviewReadBelow nearlyThere) [4, 2] = [2] ∧
    whatSetYouBack id nearlyThere (readBelow id (lowReviewReadBelow nearlyThere) [4, 2]) =
      whatSetYouBack id nearlyThere [4, 2] :=
  ⟨by decide +kernel,
    (lowReviewReadBelow_loses_nothing id nearlyThere [4, 2] (by decide)).1⟩

end ReputationKey.Reporting
