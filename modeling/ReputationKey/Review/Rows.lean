import ReputationKey.Review.Command

/-!
# The rows of one review's reply

The review row, the publication authorizations and attempts, the Google reply observations and
the recorded facts of one review with one internal reply, the text rules that digests rest on,
and the row-level writes every store builds on. Follows
`src/src/shared/db/schema/review.schema.ts:940–1330`,
`src/src/shared/domain/google-reply-text.ts` and the reply trigger of
`src/drizzle/0001_db_constructs.sql:1716–1840`.
-/

namespace ReputationKey.Review

/-- Whether a code point is white space or a line terminator to `String.prototype.trim`. -/
def isJsWhitespaceCode (code : Nat) : Bool :=
  (9 ≤ code && code ≤ 13) || code == 32 || code == 160 || code == 5760 ||
    (8192 ≤ code && code ≤ 8202) || code == 8232 || code == 8233 || code == 8239 ||
    code == 8287 || code == 12288 || code == 65279

/-- Whether a code unit is white space to `String.prototype.trim`. -/
def isJsWhitespace (unit : UInt16) : Bool := isJsWhitespaceCode unit.toNat

/-- `String.prototype.trim` on UTF-16 code units. -/
def trim (text : Text) : Text :=
  (((text.dropWhile isJsWhitespace).reverse).dropWhile isJsWhitespace).reverse

/-- Replace every carriage return, with the line feed it may precede, by one line feed. -/
def unifyLineBreaks : Text → Text
  | [] => []
  | unit :: rest =>
      if unit = 13 then
        match rest with
        | [] => [10]
        | next :: more =>
            if next = 10 then 10 :: unifyLineBreaks more else 10 :: unifyLineBreaks (next :: more)
      else unit :: unifyLineBreaks rest

/-- What identifies the provider evidence of one observation. Follows
`src/src/contexts/review/domain/google-reply-observation.ts:38–56`. -/
structure ObservationIdentity where
  propertyId : String
  sourceEpoch : Nat
  materialReviewRevision : Nat
  isTargeted : Bool
  observedDigest : Option Digest
  providerUpdatedAt : Option Int
  publicationTarget : Option (Nat × Nat × Nat)
  deriving DecidableEq, Repr

/-- The parts of the platform whose code is not in the repository: canonical composition, and
SHA-256 of a text and of an observation's joined identity. -/
structure Platform where
  normalizeNfc : Text → Text
  sha256Hex : Text → Digest
  identityDigest : ObservationIdentity → Digest

namespace Platform

variable (platform : Platform)

/-- The frozen normalization of reply text. Follows
`src/src/shared/domain/google-reply-text.ts:10–12`. -/
def normalizeGoogleReplyText (text : Text) : Text :=
  trim (unifyLineBreaks (platform.normalizeNfc text))

/-- The code units of `google-reply-v1` and the separator after it. -/
def normalizationPrefix : Text :=
  [103, 111, 111, 103, 108, 101, 45, 114, 101, 112, 108, 121, 45, 118, 49, 0]

/-- The digest of reply text. Follows `src/src/shared/domain/google-reply-text.ts:14–18`. -/
def googleReplyTextDigest (text : Text) : Digest :=
  platform.sha256Hex (normalizationPrefix ++ platform.normalizeGoogleReplyText text)

end Platform

/-- Whether provider content is held, has expired, or was deleted at the provider. -/
inductive ContentState
  | active
  | sourceExpired
  | providerDeleted
  deriving DecidableEq, Repr

/-- The columns of the review row the reply stores read. -/
structure ReviewRow where
  propertyId : String
  sourceEpoch : Nat
  sourceRevision : Nat
  sourceContentState : ContentState
  deriving DecidableEq, Repr

/-- What became of one provider-write attempt. Follows
`src/src/shared/db/schema/review.schema.ts:1200–1206`. -/
inductive AttemptOutcome
  | sending
  | providerOutcomePending
  | retryableFailure
  | ambiguous
  | terminalRejection
  | confirmed
  | superseded
  deriving DecidableEq, Repr

/-- An attempt whose outcome is still open. Follows
`src/src/contexts/review/domain/google-reply-observation.ts:129–138`. -/
def isOpenAttemptOutcome : AttemptOutcome → Bool
  | .sending | .providerOutcomePending | .ambiguous => true
  | .retryableFailure | .terminalRejection | .confirmed | .superseded => false

/-- One durable row per provider-write attempt. Follows
`src/src/shared/db/schema/review.schema.ts:1048–1082`. -/
structure PublicationAttempt where
  replyId : Nat
  publicationCycle : Nat
  attemptNumber : Nat
  providerOperationKey : String
  propertyId : String
  sourceEpoch : Nat
  materialReviewRevision : Nat
  replyStateRevision : Nat
  baseObservationRevision : Nat
  expectedReplyDigest : Digest
  outcome : AttemptOutcome
  confirmedObservationRevision : Option Nat
  createdAt : Int
  deriving DecidableEq, Repr

/-- One durable row per authorized publication cycle. Its primary key is the reply and the cycle.
Follows `src/src/shared/db/schema/review.schema.ts:985–1045`. -/
structure PublicationAuthorization where
  replyId : Nat
  propertyId : String
  publicationCycle : Nat
  sourceEpoch : Nat
  materialReviewRevision : Nat
  baseObservationRevision : Nat
  authorizedByUserId : String
  replyStateRevision : Nat
  expectedReplyDigest : Digest
  authorizedAt : Int
  deriving DecidableEq, Repr

/-- What a read showed against the head. -/
inductive ObservationChange
  | added
  | deleted
  | edited
  | unchanged
  deriving DecidableEq, Repr

/-- What the observation authority concluded from a read. -/
inductive ObservationResolution
  | confirmedOnGoogle
  | absent
  | unchanged
  | earlierPublicationLive
  | diverged
  | externalCurrentLive
  deriving DecidableEq, Repr

/-- Whether Google showed a reply. -/
inductive ObservedState
  | live
  | absent
  deriving DecidableEq, Repr

/-- One recorded observation of the reply on Google. Follows
`src/src/shared/db/schema/review.schema.ts:1215–1330`. -/
structure GoogleReplyObservation where
  observationRevision : Nat
  observationKey : String
  inputDigest : Digest
  propertyId : String
  sourceEpoch : Nat
  materialReviewRevision : Nat
  readGeneration : Nat
  state : ObservedState
  change : ObservationChange
  resolution : ObservationResolution
  isTargeted : Bool
  normalizedDigest : Option Digest
  matchedAttempt : Option (Nat × Nat)
  providerUpdatedAt : Option Int
  contentState : ContentState
  observedAt : Int
  contentExpiresAt : Int
  deriving DecidableEq, Repr

end ReputationKey.Review
