import ReputationKey.Review.CommentEnvelope
import ReputationKey.Review.ReviewDigests
import ReputationKey.Review.Rows

/-!
# Material review revisions

How a provider observation compares with the stored material of its review: the same, a guest's
edit, a restatement by Google, or a legacy baseline compared in the current form. Follows
`src/src/contexts/review/domain/material-review-revision.ts:6–74,150–292`.
-/

namespace ReputationKey.Review

open ReputationKey.Base

/-- `ReviewMaterialComparison`. -/
inductive ReviewMaterialComparison
  | initialMaterialRevision
  | unchanged
  | materialChange
  | normalizationShadowMatch
  | baselineUnavailable
  deriving DecidableEq, Repr

/-- `isGuestEdit`. -/
def isGuestEdit (comparison : ReviewMaterialComparison) : Bool := comparison == .materialChange

/-- The comparison forms of material: the one that old rows were taken over with, and the current
one. -/
inductive MaterialNormalization
  | legacyUnverifiedV0
  | reviewMaterialV1
  deriving DecidableEq, Repr

/-- The parts of the platform that digests rest on. -/
structure DigestPlatform (δ : Type) where
  sha256 : List UInt8 → δ
  normalizeNfc : Text → Text
  hexText : δ → Text

/-- `PreviousReviewMaterial`. -/
structure PreviousReviewMaterial (δ : Type) where
  materialRevision : ℕ
  normalizationVersion : MaterialNormalization
  normalizedDigest : Option δ
  rating : Option StarRating
  originalText : Option Text
  rereadOriginalText : Option Text

/-- `ProviderUpdateTimes`. -/
structure ProviderUpdateTimes where
  stored : Option Instant
  incoming : Option Instant

/-- `MaterialComparisonOutcome`. -/
structure MaterialComparisonOutcome (δ : Type) where
  description : ReviewMaterialDescription δ
  comparison : ReviewMaterialComparison
  materialRevision : ℕ
  createsMaterialRevision : Bool

/-- `MaterialReviewComparisonResult`. -/
structure MaterialReviewComparisonResult (δ : Type) extends MaterialComparisonOutcome δ where
  providerRestatement : Bool

/-- What makes an observation fail, its transaction rolled back. -/
inductive ReviewObservationError
  | fetchExpiryRequired
  | observationKeyMalformed
  | identityScopeCollision
  | providerScopeCollision
  | observationKeyCollision
  | erasedReplay
  | previousRevisionUnsafe
  | revisionOverflow
  | sequenceOverflow
  | currentRevisionMissing
  | newestObservationMissing
  | constraintViolated
  deriving DecidableEq, Repr

section Comparison

variable {δ : Type} [DecidableEq δ] (platform : DigestPlatform δ)

/-- `describeReviewMaterial` on the platform. -/
def DigestPlatform.describe (rating : StarRating) (text : Option Text) : ReviewMaterialDescription δ :=
  describeReviewMaterial platform.sha256 platform.normalizeNfc rating text

/-- `matchesRereadBaseline`. -/
def matchesRereadBaseline (previous : PreviousReviewMaterial δ)
    (material : ReviewMaterialDescription δ) : Bool :=
  match previous.rereadOriginalText, previous.rating with
  | some reread, some rating =>
      (platform.describe rating (some reread)).normalizedDigest == material.normalizedDigest
  | _, _ => false

/-- `providerUpdateTimeUnmoved`. -/
def providerUpdateTimeUnmoved (times : ProviderUpdateTimes) : Bool :=
  times.stored.isSome && times.stored == times.incoming

/-- The outcome of a comparison under the current form: the next revision, or the one there is. -/
def comparedOutcome (material : ReviewMaterialDescription δ) (materialRevision : ℕ) (same : Bool)
    (sameAs : ReviewMaterialComparison) : MaterialComparisonOutcome δ :=
  if same then ⟨material, sameAs, materialRevision, false⟩
  else ⟨material, .materialChange, materialRevision + 1, true⟩

/-- `compareMaterial`. -/
def compareMaterial (previous : Option (PreviousReviewMaterial δ)) (rating : StarRating)
    (text : Option Text) : Except ReviewObservationError (MaterialComparisonOutcome δ) :=
  let material := platform.describe rating text
  match previous with
  | none => .ok ⟨material, .initialMaterialRevision, 1, true⟩
  | some previous =>
      if previous.materialRevision = 0 ∨ maxSafeInteger < previous.materialRevision then
        .error .previousRevisionUnsafe
      else
        match previous.normalizationVersion, previous.normalizedDigest with
        | .reviewMaterialV1, some digest =>
            if digest ≠ material.normalizedDigest ∧ matchesRereadBaseline platform previous
              material then
              .ok ⟨material, .normalizationShadowMatch, previous.materialRevision, false⟩
            else
              .ok (comparedOutcome material previous.materialRevision
                (digest == material.normalizedDigest) .unchanged)
        | _, _ =>
            match previous.rating with
            | none => .ok ⟨material, .baselineUnavailable, previous.materialRevision, false⟩
            | some rating =>
                .ok (comparedOutcome material previous.materialRevision
                  ((platform.describe rating previous.originalText).normalizedDigest ==
                    material.normalizedDigest) .normalizationShadowMatch)

/-- The comparison with Google's own edit clock: a change while that stands still is a restatement.
-/
def withUpdateTimes (previous : Option (PreviousReviewMaterial δ)) (times : ProviderUpdateTimes)
    (outcome : MaterialComparisonOutcome δ) : MaterialReviewComparisonResult δ :=
  match previous with
  | none => { outcome with providerRestatement := false }
  | some previous =>
      if outcome.comparison = .materialChange ∧ providerUpdateTimeUnmoved times then
        { description := outcome.description
          comparison := .normalizationShadowMatch
          materialRevision := previous.materialRevision
          createsMaterialRevision := false
          providerRestatement := true }
      else { outcome with providerRestatement := false }

/-- `compareMaterialReviewRevision`. -/
def compareMaterialReviewRevision (previous : Option (PreviousReviewMaterial δ)) (rating : StarRating)
    (text : Option Text) (times : ProviderUpdateTimes) :
    Except ReviewObservationError (MaterialReviewComparisonResult δ) :=
  (compareMaterial platform previous rating text).map (withUpdateTimes previous times)

end Comparison

end ReputationKey.Review
