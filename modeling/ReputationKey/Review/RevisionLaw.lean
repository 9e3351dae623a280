import ReputationKey.Base.Refusal
import ReputationKey.Review.ReviewObservations
import Mathlib.Data.List.Nodup

/-!
# The law of the material revision

What an observation does to the rows of its review: a replay changes nothing, an older one is
history, and any other is applied, with a new revision exactly for a guest's edit or a new source
epoch.
-/

namespace ReputationKey.Review

open ReputationKey.Base

section Law

variable {δ : Type}

/-! ## How material compares -/

/-- A comparison with Google's clock keeps an outcome, or is a restatement that keeps the revision.
-/
theorem withUpdateTimes_some (previous : PreviousReviewMaterial δ) (times : ProviderUpdateTimes)
    (outcome : MaterialComparisonOutcome δ) :
    withUpdateTimes (some previous) times outcome = { outcome with providerRestatement := false } ∨
      (outcome.comparison = .materialChange ∧ withUpdateTimes (some previous) times outcome =
        ⟨⟨outcome.description, .normalizationShadowMatch, previous.materialRevision, false⟩,
        true⟩) := by
  by_cases h : outcome.comparison = .materialChange ∧ providerUpdateTimeUnmoved times
  · exact .inr ⟨h.1, if_pos h⟩
  · exact .inl (if_neg h)

variable [DecidableEq δ] {platform : DigestPlatform δ} {existing : ReviewSourceRow δ}
  {input : ReviewObservationInput} {material : MaterialReviewComparisonResult δ}
  {previous : PreviousReviewMaterial δ} {rating : StarRating} {text : Option Text}
  {outcome : MaterialComparisonOutcome δ}

/-- What a comparison with a stored revision comes to: the next one, exactly with a change. -/
structure ComparedWith (platform : DigestPlatform δ) (stored : ℕ) (rating : StarRating)
    (text : Option Text) (outcome : MaterialComparisonOutcome δ) : Prop where
  description : outcome.description = platform.describe rating text
  creates : outcome.createsMaterialRevision = isGuestEdit outcome.comparison
  revision : outcome.materialRevision = stored + (if outcome.createsMaterialRevision then 1 else 0)
  compared : outcome.comparison ≠ .initialMaterialRevision

theorem compareMaterial_ok
    (h : compareMaterial platform (some previous) rating text = .ok outcome) :
    ComparedWith platform previous.materialRevision rating text outcome := by
  have hcompared (same : Bool) (sameAs : ReviewMaterialComparison) (hsame : sameAs = .unchanged ∨
        sameAs = .normalizationShadowMatch) : ComparedWith platform previous.materialRevision rating
      text (comparedOutcome (platform.describe rating text) previous.materialRevision same sameAs) := by
    rw [comparedOutcome]
    constructor <;> cases same <;> rcases hsame with rfl | rfl <;> simp [isGuestEdit]
  rw [compareMaterial] at h
  obtain ⟨-, h⟩ := ok_of_guard h
  split at h
  · split at h <;> rw [← Except.ok.inj h]
    · constructor <;> simp [isGuestEdit]
    · exact hcompared _ _ (.inl rfl)
  · split at h <;> rw [← Except.ok.inj h]
    · constructor <;> simp [isGuestEdit]
    · exact hcompared _ _ (.inr rfl)

/-- What a comparison with a stored row comes to, bound to the source epoch of the observation. -/
structure ObservedAgainst (platform : DigestPlatform δ) (existing : ReviewSourceRow δ)
    (input : ReviewObservationInput) (material : MaterialReviewComparisonResult δ) : Prop where
  description : material.description = platform.describe input.content.rating input.content.text
  creates : material.createsMaterialRevision =
    (isGuestEdit material.comparison || decide (existing.sourceEpoch ≠ input.sourceEpoch))
  revision : material.materialRevision =
    max 1 existing.sourceRevision + (if material.createsMaterialRevision then 1 else 0)
  compared : material.comparison ≠ .initialMaterialRevision

/-- The steps of a comparison with a stored row. -/
theorem observedMaterial_steps (input : ReviewObservationInput)
    (baseline : existing.materialNormalizationVersion.isSome = true) :
    observedMaterial platform (some existing) input =
      (compareMaterial platform (some (currentMaterial existing)) input.content.rating
        input.content.text >>= fun outcome ↦
          bindMaterialRevisionToSourceEpoch (some existing) input.sourceEpoch
            (withUpdateTimes (some (currentMaterial existing))
              (providerUpdateTimes (some existing) input) outcome)) := by
  rw [observedMaterial, Option.filter_some, if_pos baseline, Option.map_some,
    compareMaterialReviewRevision]
  cases compareMaterial platform (some (currentMaterial existing)) input.content.rating
    input.content.text <;> rfl

theorem observedMaterial_some (baseline : existing.materialNormalizationVersion.isSome = true)
    (h : observedMaterial platform (some existing) input = .ok material) :
    ObservedAgainst platform existing input material := by
  rw [observedMaterial_steps input baseline] at h
  obtain ⟨outcome, hcompare, hbound⟩ := ok_of_bind h
  have hcompared := compareMaterial_ok hcompare
  generalize htimes : withUpdateTimes (some (currentMaterial existing))
    (providerUpdateTimes (some existing) input) outcome = timed at hbound
  have hkept : ComparedWith platform (currentMaterial existing).materialRevision input.content.rating
      input.content.text timed.toMaterialComparisonOutcome := by
    rcases withUpdateTimes_some (currentMaterial existing) (providerUpdateTimes (some existing) input)
        outcome with hsame | ⟨-, hrestated⟩
    · rw [← htimes, hsame]
      exact hcompared
    · rw [← htimes, hrestated]
      exact ⟨hcompared.description, rfl, rfl, by simp⟩
  obtain ⟨hdescription, hcreates, hrevision, hinitial⟩ := hkept
  rw [bindMaterialRevisionToSourceEpoch] at hbound
  split_ifs at hbound with hbinds hoverflow
  · rw [Except.ok.inj hbound] at hdescription hcreates hrevision hinitial hbinds
    refine ⟨hdescription, ?_, hrevision, hinitial⟩
    rw [Bool.or_eq_true, Option.all_some, decide_eq_true_eq] at hbinds
    rcases hbinds with hepoch | hcreated
    · rw [hcreates, decide_eq_false (not_not_intro hepoch), Bool.or_false]
    · rw [← hcreates, hcreated, Bool.true_or]
  · rw [Bool.or_eq_true, Option.all_some, decide_eq_true_eq, not_or] at hbinds
    have huncreated := Bool.eq_false_iff.2 hbinds.2
    rw [← Except.ok.inj hbound]
    refine ⟨hdescription, ?_, ?_, hinitial⟩
    · rw [decide_eq_true hbinds.1, Bool.or_true]
    · rw [hrevision, huncreated, if_neg Bool.false_ne_true, if_pos rfl, add_zero]
      rfl

/-- A comparison fails only where the next revision has no safe number. -/
theorem observedMaterial_error {error : ReviewObservationError}
    (baseline : existing.materialNormalizationVersion.isSome = true)
    (safe : existing.sourceRevision ≤ maxSafeInteger)
    (h : observedMaterial platform (some existing) input = .error error) :
    error = .revisionOverflow := by
  have hsafe : ¬((currentMaterial existing).materialRevision = 0 ∨
      maxSafeInteger < (currentMaterial existing).materialRevision) := by
    have hmax : (currentMaterial existing).materialRevision = max 1 existing.sourceRevision := rfl
    have hone : 1 ≤ maxSafeInteger := by decide
    rw [hmax]
    omega
  rw [observedMaterial_steps input baseline] at h
  cases hcompare : compareMaterial platform (some (currentMaterial existing)) input.content.rating
      input.content.text with
  | error error' =>
      rw [compareMaterial, if_neg hsafe] at hcompare
      split at hcompare
      · split_ifs at hcompare
      · split at hcompare <;> cases hcompare
  | ok outcome =>
      rw [bind_of_ok hcompare, bindMaterialRevisionToSourceEpoch] at h
      split_ifs at h
      exact (Except.error.inj h).symm

/-- A review that was never observed gets its first revision. -/
theorem observedMaterial_none (h : observedMaterial platform none input = .ok material) :
    material = ⟨⟨platform.describe input.content.rating input.content.text, .initialMaterialRevision, 1,
      true⟩, false⟩ := (Except.ok.inj h).symm

/-- The baseline's own rating and text are no change. -/
theorem compareMaterial_same
    (h : compareMaterial platform (some previous) rating text = .ok outcome)
    (digest : previous.normalizationVersion = .reviewMaterialV1 →
      previous.normalizedDigest = some (platform.describe rating text).normalizedDigest)
    (sameRating : previous.rating = some rating) (sameText : previous.originalText = text) :
    isGuestEdit outcome.comparison = false := by
  rw [compareMaterial] at h
  obtain ⟨-, h⟩ := ok_of_guard h
  cases hversion : previous.normalizationVersion with
  | legacyUnverifiedV0 =>
      rw [hversion, sameRating, sameText] at h
      rw [← Except.ok.inj h, comparedOutcome, if_pos (beq_self_eq_true _)]
      rfl
  | reviewMaterialV1 =>
      rw [hversion, digest hversion] at h
      dsimp only at h
      rw [if_neg fun hne ↦ hne.1 rfl] at h
      rw [← Except.ok.inj h, comparedOutcome, if_pos (beq_self_eq_true _)]
      rfl

/-- The head's own rating and text, read again within its epoch, are no new revision. -/
theorem creates_of_head {content : SourceObservation}
    (baseline : existing.materialNormalizationVersion.isSome = true)
    (h : observedMaterial platform (some existing) input = .ok material)
    (stored : existing.content = some content)
    (digest : existing.materialNormalizationVersion = some .reviewMaterialV1 →
      existing.materialNormalizedDigest =
        some (platform.describe content.rating content.text).normalizedDigest)
    (epoch : existing.sourceEpoch = input.sourceEpoch) (rating : input.content.rating = content.rating)
    (text : input.content.text = content.text) : material.createsMaterialRevision = false := by
  have hagainst := observedMaterial_some baseline h
  rw [hagainst.creates, decide_eq_false (not_not_intro epoch), Bool.or_false]
  rw [observedMaterial_steps input baseline] at h
  obtain ⟨outcome, hcompare, hbound⟩ := ok_of_bind h
  have hsame : isGuestEdit outcome.comparison = false := by
    apply compareMaterial_same hcompare
    · intro hversion
      obtain ⟨version, hsome⟩ := Option.isSome_iff_exists.1 baseline
      have hnewest : version = .reviewMaterialV1 := by
        rw [currentMaterial, hsome] at hversion
        exact hversion
      rw [rating, text]
      exact digest (hsome.trans (congrArg some hnewest))
    · rw [currentMaterial, stored, rating]
      rfl
    · rw [currentMaterial, stored, text]
      rfl
  rw [bindMaterialRevisionToSourceEpoch, Option.all_some, decide_eq_true epoch, Bool.true_or,
    if_pos rfl] at hbound
  rcases withUpdateTimes_some (currentMaterial existing) (providerUpdateTimes (some existing) input)
      outcome with htimes | ⟨hchange, -⟩
  · rw [← Except.ok.inj hbound, htimes]
    exact hsame
  · rw [hchange] at hsame
    cases hsame

end Law

end ReputationKey.Review
