import ReputationKey.Review.MaterialRevision
import ReputationKey.Base.RowTable

/-!
# Observations of a review

The rows of one review that a provider observation writes, in one transaction that rolls back on an
error: the review row, its observations, its material revisions and the copy of its content that is
served. Follows
`src/src/contexts/review/infrastructure/repositories/review-observation.repository.ts` and the
erasure of `src/src/contexts/review/infrastructure/review-source-content-store.ts:118–250`.
-/

namespace ReputationKey.Review

open ReputationKey.Base
open ReputationKey.Shared (asciiText)

/-- `ReviewProviderObservationOrigin`. -/
inductive ReviewProviderObservationOrigin
  | ongoing
  | historicalOnboarding
  | legacyUnknown
  deriving DecidableEq, Repr

/-- `ReviewResponseTargetEligibility`. -/
inductive ReviewResponseTargetEligibility
  | measured
  | historicalOnboarding
  | legacyUnknown
  deriving DecidableEq, Repr

/-- `ReviewObservationComparison`. -/
inductive ReviewObservationComparison
  | backfilledUnverified
  | compared (comparison : ReviewMaterialComparison)
  | outOfOrderIgnored
  deriving DecidableEq, Repr

/-- The review row. The columns of provider content are null together, once it is erased. -/
structure ReviewSourceRow (δ : Type) where
  sourceEpoch : ℕ
  sourceRevision : ℕ
  sourceObservationSequence : ℕ
  contentState : ContentState
  content : Option SourceObservation
  contentExpiresAt : Option Instant
  materialNormalizationVersion : Option MaterialNormalization
  materialSourceDigest : Option δ
  materialNormalizedDigest : Option δ

/-- An observation row. -/
structure SourceObservationRow (δ : Type) where
  observationSequence : ℕ
  sourceEpoch : ℕ
  observationKey : Text
  observationDigest : δ
  materialRevision : ℕ
  comparison : ReviewObservationComparison
  sourceDigest : Option δ
  normalizedDigest : Option δ
  observedAt : Instant
  contentExpiresAt : Instant
  contentState : ContentState
  content : Option SourceObservation

/-- A material revision row. -/
structure MaterialRevisionRow (δ : Type) where
  revision : ℕ
  sourceEpoch : ℕ
  normalizationVersion : MaterialNormalization
  sourceDigest : Option δ
  normalizedDigest : Option δ
  rating : Option StarRating
  normalizedText : Option Text
  responseTargetEligibility : ReviewResponseTargetEligibility
  responseTargetStartAt : Option Instant
  contentState : ContentState

/-- The erasable copy of the content. -/
structure SourceContentRow where
  content : SourceObservation
  contentExpiresAt : Instant
  sourceEpoch : ℕ
  sourceRevision : ℕ

/-- The rows of one review. -/
structure ReviewTables (δ : Type) where
  review : Option (ReviewSourceRow δ)
  observations : List (SourceObservationRow δ)
  revisions : List (MaterialRevisionRow δ)
  contents : Option SourceContentRow

/-- `ObservationInput`, with what the transaction finds of the identity columns: whether a stored
row has this organization, property and platform, and whether the provider's identifier is another
review's. An input without fetch clocks has no expiry. -/
structure ReviewObservationInput where
  sourceEpoch : ℕ
  content : SourceObservation
  contentExpiresAt : Option Instant
  observedAt : Instant
  observationKey : Option Text
  observationOrigin : Option ReviewProviderObservationOrigin
  providerUpdateTimeReported : Option Bool
  sameScope : Bool
  providerIdentityTaken : Bool

/-- `PersistedReviewObservation`. -/
structure PersistedReviewObservation (δ : Type) where
  review : ReviewSourceRow δ
  observationSequence : ℕ
  materialRevision : ℕ
  comparison : ReviewObservationComparison
  createsMaterialRevision : Bool
  duplicate : Bool
  outOfOrder : Bool
  providerRestatement : Bool

/-- `providerVersion` of observed content. -/
def providerVersion (content : SourceObservation) : Instant :=
  (content.sourceUpdatedAt <|> content.sourceCreatedAt).getD content.reviewedAt

/-- `HEX_DIGEST`. -/
def isHexDigest (key : Text) : Bool :=
  key.length == 64 && key.all fun unit ↦ (48 ≤ unit && unit ≤ 57) || (97 ≤ unit && unit ≤ 102)

section Persistence

variable {δ : Type} [DecidableEq δ] (platform : DigestPlatform δ)

/-- `fallbackObservationKey`. -/
def DigestPlatform.fallbackObservationKey (observationDigest : δ) (observedAt : Instant) : Text :=
  platform.hexText (sha256Hex platform.sha256 (asciiText "repkey-review-observation-command-v1" ++
    0 :: (platform.hexText observationDigest ++ 0 :: instantText observedAt.1)))

/-- The digest of an input's content. -/
def DigestPlatform.observationDigest (input : ReviewObservationInput) : δ :=
  computeReviewSourceObservationDigest platform.sha256 input.content

/-- The key of `resolveObservationKey`. -/
def DigestPlatform.observationKey (input : ReviewObservationInput) : Text :=
  input.observationKey.getD
    (platform.fallbackObservationKey (platform.observationDigest input) input.observedAt)

/-- `currentMaterial`. -/
def currentMaterial (row : ReviewSourceRow δ) : PreviousReviewMaterial δ where
  materialRevision := max 1 row.sourceRevision
  normalizationVersion := row.materialNormalizationVersion.getD .legacyUnverifiedV0
  normalizedDigest := row.materialNormalizedDigest
  rating := row.content.map fun content ↦ content.rating
  originalText := row.content.bind fun content ↦ content.text
  rereadOriginalText := (parseGoogleReviewComment
  (row.content.bind fun content ↦ content.text)).original

/-- `providerUpdateTimes`. -/
def providerUpdateTimes (existing : Option (ReviewSourceRow δ)) (input : ReviewObservationInput) :
    ProviderUpdateTimes where
  stored := existing.bind fun row ↦ row.content.bind fun content ↦ content.sourceUpdatedAt
  incoming := if input.providerUpdateTimeReported.getD input.content.sourceUpdatedAt.isSome then
      input.content.sourceUpdatedAt
    else none

/-- `bindMaterialRevisionToSourceEpoch`. -/
def bindMaterialRevisionToSourceEpoch (existing : Option (ReviewSourceRow δ)) (sourceEpoch : ℕ)
    (material : MaterialReviewComparisonResult δ) :
    Except ReviewObservationError (MaterialReviewComparisonResult δ) :=
  if (existing.all fun row ↦ row.sourceEpoch = sourceEpoch) || material.createsMaterialRevision then
    .ok material
  else if maxSafeInteger < material.materialRevision + 1 then .error .revisionOverflow
  else
    .ok { material with
      materialRevision := material.materialRevision + 1
      createsMaterialRevision := true }

/-- How the input compares with the stored review, bound to its source epoch. A row without a
comparison form has no baseline. -/
def observedMaterial (existing : Option (ReviewSourceRow δ)) (input : ReviewObservationInput) :
    Except ReviewObservationError (MaterialReviewComparisonResult δ) :=
  let previous := (existing.filter fun row ↦ row.materialNormalizationVersion.isSome).map
    currentMaterial
  compareMaterialReviewRevision platform previous input.content.rating input.content.text
      (providerUpdateTimes existing input) >>= fun material ↦
    bindMaterialRevisionToSourceEpoch existing input.sourceEpoch material

/-- `findReplayedObservation`. -/
def findReplayedObservation (existing : ReviewSourceRow δ) (input : ReviewObservationInput)
    (s : ReviewTables δ) : Except ReviewObservationError (Option (SourceObservationRow δ)) :=
  match s.observations.find? fun row ↦ row.sourceEpoch = input.sourceEpoch ∧
      row.observationKey = platform.observationKey input with
  | none => .ok none
  | some replayed =>
      if replayed.observationDigest ≠ platform.observationDigest input then
        .error .observationKeyCollision
      else if existing.contentState ≠ .active then .error .erasedReplay
      else .ok (some replayed)

/-- `sourceObservationValues`. -/
def sourceObservationValues (input : ReviewObservationInput) (contentExpiresAt : Instant)
    (observationSequence materialRevision : ℕ) (comparison : ReviewObservationComparison)
    (material : ReviewMaterialDescription δ) : SourceObservationRow δ where
  observationSequence := observationSequence
  sourceEpoch := input.sourceEpoch
  observationKey := platform.observationKey input
  observationDigest := platform.observationDigest input
  materialRevision := materialRevision
  comparison := comparison
  sourceDigest := some material.sourceDigest
  normalizedDigest := some material.normalizedDigest
  observedAt := input.observedAt
  contentExpiresAt := contentExpiresAt
  contentState := .active
  content := some input.content

/-- An observation row is inserted: its sequence and its key are new, its revision is there, and its
numbers are safe. -/
def insertObservation (row : SourceObservationRow δ) (s : ReviewTables δ) :
    Except ReviewObservationError (ReviewTables δ) :=
  if (s.observations.any fun other ↦ other.observationSequence = row.observationSequence ∨
        other.sourceEpoch = row.sourceEpoch ∧ other.observationKey = row.observationKey) ||
      (s.revisions.all fun revision ↦ revision.revision ≠ row.materialRevision) ||
      maxSafeInteger < row.observationSequence then
    .error .constraintViolated
  else .ok { s with observations := row :: s.observations }

/-- `recordOutOfOrderObservation`. -/
def recordOutOfOrderObservation (existing : ReviewSourceRow δ) (input : ReviewObservationInput)
    (contentExpiresAt : Instant) (material : MaterialReviewComparisonResult δ) (s : ReviewTables δ) :
    Except ReviewObservationError (PersistedReviewObservation δ × ReviewTables δ) :=
  let materialRevision := max 1 existing.sourceRevision
  let observationSequence := existing.sourceObservationSequence + 1
  let row := sourceObservationValues platform input contentExpiresAt observationSequence
    materialRevision
    .outOfOrderIgnored material.description
  insertObservation row s >>= fun s ↦
    .ok ({ review := existing
           observationSequence
           materialRevision
           comparison := .outOfOrderIgnored
           createsMaterialRevision := false
           duplicate := false
           outOfOrder := true
           providerRestatement := false },
      { s with review := some { existing with sourceObservationSequence := observationSequence } })

/-- `rereadsHeadObservation`. -/
def rereadsHeadObservation (existing : ReviewSourceRow δ) (input : ReviewObservationInput)
    (material : MaterialReviewComparisonResult δ) (s : ReviewTables δ) : Bool :=
  decide (existing.contentState = .active ∧ existing.sourceEpoch = input.sourceEpoch ∧
    material.comparison = .unchanged ∧ material.createsMaterialRevision = false) &&
  (RowTable.find SourceObservationRow.observationSequence existing.sourceObservationSequence
    s.observations).any fun head ↦
      head.observationDigest = platform.observationDigest input ∧
      head.materialRevision = material.materialRevision ∧ head.sourceEpoch = input.sourceEpoch ∧
      head.contentState = .active

/-- The row of `writeObservedReviewRow`. -/
def observedReviewRow (input : ReviewObservationInput) (contentExpiresAt : Instant)
    (material : MaterialReviewComparisonResult δ) (observationSequence : ℕ) : ReviewSourceRow δ where
  sourceEpoch := input.sourceEpoch
  sourceRevision := material.materialRevision
  sourceObservationSequence := observationSequence
  contentState := .active
  content := some input.content
  contentExpiresAt := some contentExpiresAt
  materialNormalizationVersion := some .reviewMaterialV1
  materialSourceDigest := some material.description.sourceDigest
  materialNormalizedDigest := some material.description.normalizedDigest

/-- When the measurement of a response would start: with the review, or with its newest edit. -/
def providerTargetStartAt (isInitialRevision : Bool) (input : ReviewObservationInput) : Instant :=
  if isInitialRevision then input.content.sourceCreatedAt.getD input.content.reviewedAt
  else input.content.sourceUpdatedAt.getD input.observedAt

/-- A start that lies after the observation is not measured from. -/
def hasUsableProviderTargetStart (isInitialRevision : Bool) (input : ReviewObservationInput) : Bool :=
  input.observationOrigin = some .ongoing ∧
    (providerTargetStartAt isInitialRevision input).1 ≤ input.observedAt.1

/-- `responseTargetEligibility` of a new revision. -/
def responseTargetEligibility (isInitialRevision : Bool) (input : ReviewObservationInput) :
    ReviewResponseTargetEligibility :=
  if hasUsableProviderTargetStart isInitialRevision input then .measured
  else
    match input.observationOrigin with
    | some .historicalOnboarding => .historicalOnboarding
    | _ => .legacyUnknown

/-- The row of a new material revision. -/
def materialRevisionValues (isInitialRevision : Bool) (input : ReviewObservationInput)
    (material : MaterialReviewComparisonResult δ) : MaterialRevisionRow δ where
  revision := material.materialRevision
  sourceEpoch := input.sourceEpoch
  normalizationVersion := .reviewMaterialV1
  sourceDigest := some material.description.sourceDigest
  normalizedDigest := some material.description.normalizedDigest
  rating := some input.content.rating
  normalizedText := material.description.normalizedText
  responseTargetEligibility := responseTargetEligibility isInitialRevision input
  responseTargetStartAt := if hasUsableProviderTargetStart isInitialRevision input then
      some (providerTargetStartAt isInitialRevision input)
    else none
  contentState := .active

/-- A revision row with the content of an observation that created none; a comparison without a
baseline in the current form takes the digests over. -/
def restoredRevision (input : ReviewObservationInput) (material : MaterialReviewComparisonResult δ)
    (row : MaterialRevisionRow δ) : MaterialRevisionRow δ :=
  let restored :=
    { row with
      rating := some input.content.rating
      normalizedText := material.description.normalizedText
      contentState := .active }
  if material.comparison = .normalizationShadowMatch ∨ material.comparison = .baselineUnavailable then
    { restored with
      normalizationVersion := .reviewMaterialV1
      sourceDigest := some material.description.sourceDigest
      normalizedDigest := some material.description.normalizedDigest }
  else restored

/-- `insertOrRestoreMaterialRevision`. -/
def insertOrRestoreMaterialRevision (isInitialRevision : Bool) (input : ReviewObservationInput)
    (material : MaterialReviewComparisonResult δ) (s : ReviewTables δ) :
    Except ReviewObservationError (ReviewTables δ) :=
  if material.createsMaterialRevision then
    if s.revisions.any fun row ↦ row.revision = material.materialRevision then
      .error .constraintViolated
    else
      .ok { s with
        revisions := materialRevisionValues isInitialRevision input material :: s.revisions }
  else if s.revisions.any fun row ↦
      row.revision = material.materialRevision ∧ row.sourceEpoch = input.sourceEpoch then
    .ok { s with
      revisions := s.revisions.map fun row ↦
        if row.revision = material.materialRevision ∧ row.sourceEpoch = input.sourceEpoch then
          restoredRevision input material row
        else row }
  else .error .currentRevisionMissing

/-- `refreshHeadObservation`. -/
def refreshHeadObservation (existing : ReviewSourceRow δ) (input : ReviewObservationInput)
    (contentExpiresAt : Instant) (s : ReviewTables δ) :
    Except ReviewObservationError (ReviewTables δ) :=
  let isHead (row : SourceObservationRow δ) : Bool :=
    row.observationSequence = existing.sourceObservationSequence ∧
      row.observationDigest = platform.observationDigest input ∧ row.contentState = .active
  if s.observations.any isHead then
    .ok { s with
      observations := s.observations.map fun row ↦
        if isHead row then { row with contentExpiresAt } else row }
  else .error .newestObservationMissing

/-- The part of `persistReviewObservation` that applies an observation. -/
def applySourceObservation (input : ReviewObservationInput) (contentExpiresAt : Instant)
    (material : MaterialReviewComparisonResult δ) (s : ReviewTables δ) :
    Except ReviewObservationError (PersistedReviewObservation δ × ReviewTables δ) :=
  let stored := (s.review.map fun row ↦ row.sourceObservationSequence).getD 0
  let rereads := s.review.filter fun existing ↦ rereadsHeadObservation platform existing input
    material s
  let appliedSequence := if rereads.isSome then stored else stored + 1
  let row := observedReviewRow input contentExpiresAt material appliedSequence
  if maxSafeInteger < material.materialRevision then .error .constraintViolated
  else
    insertOrRestoreMaterialRevision s.review.isNone input material { s with review := some row } >>=
      fun s ↦
        (rereads.elim
          (insertObservation (sourceObservationValues platform input contentExpiresAt appliedSequence
            material.materialRevision (.compared material.comparison) material.description) s)
          fun existing ↦ refreshHeadObservation platform existing input contentExpiresAt s) >>= fun s ↦
        .ok ({ review := row
               observationSequence := appliedSequence
               materialRevision := material.materialRevision
               comparison := .compared material.comparison
               createsMaterialRevision := material.createsMaterialRevision
               duplicate := false
               outOfOrder := false
               providerRestatement := material.providerRestatement },
          { s with
            contents := some ⟨input.content, contentExpiresAt, input.sourceEpoch,
              material.materialRevision⟩ })

/-- Whether an observation is older than the stored head of its epoch. -/
def isOutOfOrder (existing : ReviewSourceRow δ) (input : ReviewObservationInput) : Bool :=
  existing.sourceEpoch = input.sourceEpoch ∧ (existing.content.any fun content ↦
    (providerVersion input.content).1 < (providerVersion content).1)

/-- `persistReviewObservation`. -/
def persistReviewObservation (input : ReviewObservationInput) (s : ReviewTables δ) :
    Except ReviewObservationError (PersistedReviewObservation δ × ReviewTables δ) :=
  match input.contentExpiresAt with
  | none => .error .fetchExpiryRequired
  | some contentExpiresAt =>
      if isHexDigest (platform.observationKey input) = false then .error .observationKeyMalformed
      else if s.review.any fun existing ↦
          !input.sameScope || decide (input.sourceEpoch < existing.sourceEpoch) then
        .error .identityScopeCollision
      else if input.providerIdentityTaken then .error .providerScopeCollision
      else
        match s.review with
        | none =>
            observedMaterial platform none input >>= fun material ↦
              applySourceObservation platform input contentExpiresAt material s
        | some existing =>
            findReplayedObservation platform existing input s >>= fun replayed ↦
              match replayed with
              | some row =>
                  .ok ({ review := existing
                         observationSequence := row.observationSequence
                         materialRevision := row.materialRevision
                         comparison := row.comparison
                         createsMaterialRevision := false
                         duplicate := true
                         outOfOrder := false
                         providerRestatement := false }, s)
              | none =>
                  observedMaterial platform (some existing) input >>= fun material ↦
                    if maxSafeInteger < existing.sourceObservationSequence + 1 then
                      .error .sequenceOverflow
                    else if isOutOfOrder existing input then
                      recordOutOfOrderObservation platform existing input contentExpiresAt material s
                    else applySourceObservation platform input contentExpiresAt material s

/-- Why content is erased. -/
inductive SourceErasure
  | sourceExpired
  | providerDeleted
  deriving DecidableEq, Repr

/-- The content state that an erasure leaves. -/
def SourceErasure.state : SourceErasure → ContentState
  | .sourceExpired => .sourceExpired
  | .providerDeleted => .providerDeleted

/-- An observation row without its content. -/
def SourceObservationRow.erased (state : ContentState) (row : SourceObservationRow δ) :
    SourceObservationRow δ :=
  if row.contentState = .active then { row with contentState := state, content := none } else row

/-- A material revision row without its content. -/
def MaterialRevisionRow.erased (state : ContentState) (row : MaterialRevisionRow δ) :
    MaterialRevisionRow δ :=
  if row.contentState = .active then
    { row with contentState := state, rating := none, normalizedText := none }
  else row

/-- `eraseReviewSourceContent`: whether the review is the one named, and the rows without content.
-/
def eraseSourceContent (sourceEpoch expectedSourceRevision : ℕ) (erasure : SourceErasure)
    (s : ReviewTables δ) : Bool × ReviewTables δ :=
  match s.review with
  | none => (false, s)
  | some row =>
      if row.sourceEpoch = sourceEpoch ∧ row.sourceRevision = expectedSourceRevision then
        (true,
          { review := some
              { row with contentState := erasure.state, content := none, contentExpiresAt := none }
            observations := s.observations.map (SourceObservationRow.erased erasure.state)
            revisions := s.revisions.map (MaterialRevisionRow.erased erasure.state)
            contents := none })
      else (false, s)

end Persistence

end ReputationKey.Review
