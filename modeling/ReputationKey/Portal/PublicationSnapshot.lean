import ReputationKey.Portal.PublicationSource

/-!
# Building, verifying and comparing a snapshot

Publishing resolves a source into a snapshot, the reader verifies what it reads back, and the
working copy is compared with what a snapshot published. A date is its epoch milliseconds, or
`none` when it is invalid. Follows
`src/src/contexts/portal/application/portal-publication-snapshot.ts` and
`src/src/contexts/portal/application/portal-working-copy-match.ts`.
-/

namespace ReputationKey.Portal

open ReputationKey.Base ReputationKey.Shared

/-! ## What is canonicalized -/

/-- What a snapshot published, or would publish, in the shape the comparison digests. -/
structure ComparableContent where
  organizationId : String
  propertyId : String
  privateFeedbackThreshold : JsNumber
  skipPrivateRating : Bool
  content : ImmersivePublicationContent

/-- The values the code writes in canonical form. -/
inductive CanonicalValue
  | configuration (configuration : ImmersiveConfiguration)
  | content (content : ComparableContent)

/-- The numbers of an image. -/
def ImmersiveMediaReference.numbers (media : ImmersiveMediaReference) : List JsNumber :=
  [media.width, media.height]

/-- The numbers of a look. -/
def ImmersiveBrandProfile.numbers (brand : ImmersiveBrandProfile) : List JsNumber :=
  (brand.logo.elim [] fun logo ↦ logo.numbers) ++
    (brand.hero.elim [] fun hero ↦
      hero.toImmersiveMediaReference.numbers ++ [hero.focalX, hero.focalY]) ++ [brand.lookVersion]

/-- The numbers of a canonicalized value. -/
def CanonicalValue.numbers : CanonicalValue → List JsNumber
  | .configuration value =>
      [value.reviewGateway.privateFeedbackThreshold, value.googleReviewBinding.sourceEpoch,
        value.googleReviewBinding.profileVersion] ++ value.brandProfile.numbers
  | .content comparable =>
      comparable.privateFeedbackThreshold :: comparable.content.brandProfile.numbers

/-- What publishing asks the platform besides the resolver's questions: the canonical text of a
value, which a number outside JSON has none of, and the SHA-256 digest of a text. -/
structure PublicationPlatform extends ResolverPlatform where
  canonicalizeRfc8785 : CanonicalValue → Option String
  sha256 : String → String

/-- What the code relies on: exactly the values whose numbers are finite have a canonical form, it
tells values apart, and a derived field is a hexadecimal colour. -/
structure PublicationPlatform.Lawful (platform : PublicationPlatform) : Prop where
  canonical_defined : ∀ value, (∃ text, platform.canonicalizeRfc8785 value = some text) ↔
    ∀ number ∈ value.numbers, number.isFinite = true
  canonical_injective : ∀ a b text, platform.canonicalizeRfc8785 a = some text →
    platform.canonicalizeRfc8785 b = some text → a = b
  field_hex : ∀ accent field, platform.deriveFieldColour accent = some field →
    matchesHexColour field = true

/-! ## Snapshots and envelopes -/

/-- A stored publication snapshot of schema version 3. -/
structure PortalPublicationSnapshot where
  id : String
  organizationId : String
  propertyId : String
  portalId : String
  version : JsNumber
  configurationDigest : String
  configuration : ImmersiveConfiguration
  destinationUri : String
  destinationRetrievedAt : Option Int
  destinationSourceEpoch : JsNumber
  destinationProfileVersion : JsNumber
  createdBy : String
  createdAt : Option Int

/-- The verified Google destination of a Property. -/
structure VerifiedPublicationDestination where
  uri : String
  retrievedAt : Option Int
  sourceEpoch : JsNumber
  profileVersion : JsNumber
  deriving DecidableEq, Repr

/-- The facts every publication input states about itself, besides its source. -/
structure PublicationEnvelope where
  id : String
  portalId : String
  organizationId : String
  propertyId : String
  version : JsNumber
  destination : VerifiedPublicationDestination
  createdBy : String
  createdAt : Option Int
  deriving DecidableEq, Repr

/-- The codes of a refused publication. -/
inductive PortalErrorCode
  | publicationSnapshotUnavailable
  | googleReviewDestinationUnavailable
  deriving DecidableEq, Repr

/-- Why a publication does not go through: a refusal the manager reads, or a value that has no
canonical form or no ISO text. -/
inductive PublicationRefusal
  | portal (code : PortalErrorCode) (message : String)
  | notCanonical
  | invalidDate
  deriving DecidableEq, Repr

/-! ## The envelope -/

/-- Every identifier is present and the source agrees with the declared scope. -/
def hasConsistentPublicationScope (input : PublicationEnvelope) (source : PortalPublicationSource) :
    Bool :=
  decide (0 < utf16Length input.id) && decide (0 < utf16Length input.portalId) &&
    decide (0 < utf16Length input.organizationId) && decide (0 < utf16Length input.propertyId) &&
    decide (0 < utf16Length input.createdBy) && source.portal.id == input.portalId &&
    source.organizationId == input.organizationId && source.propertyId == input.propertyId

/-- Every field of the destination binding is present and in range. -/
def isCompleteVerifiedDestination (destination : VerifiedPublicationDestination) : Bool :=
  decide (0 < utf16Length destination.uri) && destination.retrievedAt.isSome &&
    destination.sourceEpoch.isSafeInteger && destination.sourceEpoch.isAtLeast 0 &&
    destination.profileVersion.isSafeInteger && destination.profileVersion.isAtLeast 1

/-- A positive safe integer. -/
def isPublicationVersion (version : JsNumber) : Bool :=
  version.isSafeInteger && version.isAtLeast 1

/-- A whole number of stars. -/
def isFeedbackThreshold (threshold : JsNumber) : Bool :=
  threshold.isInteger && threshold.isWithin 1 5

/-- Refuse an incomplete envelope. -/
def assertPublicationEnvelope (input : PublicationEnvelope) (source : PortalPublicationSource) :
    Except PublicationRefusal Unit :=
  if hasConsistentPublicationScope input source = false then
    .error (.portal .publicationSnapshotUnavailable
      "Portal publication scope is incomplete or inconsistent")
  else if isPublicationVersion input.version = false then
    .error (.portal .publicationSnapshotUnavailable
      "Portal publication version must be a positive integer")
  else if isFeedbackThreshold source.privateFeedbackThreshold = false then
    .error (.portal .publicationSnapshotUnavailable
      "Portal publication requires a private-feedback threshold from 1 to 5")
  else if isCompleteVerifiedDestination input.destination = false ∨ input.createdAt = none then
    .error (.portal .googleReviewDestinationUnavailable
      "Portal publication requires a complete verified Google destination binding")
  else .ok ()

/-! ## What a manager is told -/

/-- What a text is called. -/
def wordingNameOf : PublicationTextKey → String
  | .title => "title"
  | .shortDescription => "short description"
  | .heroAlt => "photo description"
  | .link _ => "link wording"

/-- What a manager is told about what stops a publication. -/
def describeBlocker : PublicationBlocker → String
  | .primaryTextMissing locale key =>
      "Write the " ++ wordingNameOf key ++ " in the primary language (" ++ locale.englishName ++
        ") before publishing"
  | .languagePackMissing locale =>
      "The guest wording for " ++ locale.englishName ++
        " isn’t ready yet, so that language can’t be published"
  | .timeZoneInvalid => "Set a valid time zone for this Property before publishing"

/-! ## Verifying -/

/-- The canonical text of a value. -/
def canonicalText (platform : PublicationPlatform) (value : CanonicalValue) :
    Except PublicationRefusal String :=
  match platform.canonicalizeRfc8785 value with
  | none => .error .notCanonical
  | some text => .ok text

/-- The digest every snapshot row stores. -/
def digestPortalPublicationConfiguration (platform : PublicationPlatform)
    (configuration : ImmersiveConfiguration) : Except PublicationRefusal String :=
  (canonicalText platform (.configuration configuration)).map platform.sha256

/-- The instant an ISO text writes. -/
def toISOString (date : Option Int) : Except PublicationRefusal Int :=
  match date with
  | none => .error .invalidDate
  | some instant => .ok instant

/-- Scope, gateway range and destination agree with the row, up to the retrieval. -/
def hasConsistentSnapshotScope (snapshot : PortalPublicationSnapshot) : Bool :=
  let configuration := snapshot.configuration
  decide (0 < utf16Length snapshot.id) && decide (0 < utf16Length snapshot.portalId) &&
    decide (0 < utf16Length snapshot.organizationId) &&
    decide (0 < utf16Length snapshot.propertyId) && decide (0 < utf16Length snapshot.createdBy) &&
    isPublicationVersion snapshot.version && configuration.portal.id == snapshot.portalId &&
    isFeedbackThreshold configuration.reviewGateway.privateFeedbackThreshold &&
    configuration.reviewGateway.googleReviewUri == snapshot.destinationUri

/-- Scope, gateway range and destination binding all agree with the row. -/
def hasConsistentSnapshotBinding (snapshot : PortalPublicationSnapshot) :
    Except PublicationRefusal Bool :=
  let binding := snapshot.configuration.googleReviewBinding
  if hasConsistentSnapshotScope snapshot = false then .ok false
  else
    (toISOString snapshot.destinationRetrievedAt).map fun retrievedAt ↦
      decide (binding.retrievedAt = retrievedAt) &&
        binding.sourceEpoch.strictEq snapshot.destinationSourceEpoch &&
        binding.profileVersion.strictEq snapshot.destinationProfileVersion &&
        snapshot.createdAt.isSome

/-- Fail-closed integrity check for content read back from durable storage. -/
def verifyPortalPublicationSnapshot (platform : PublicationPlatform)
    (snapshot : PortalPublicationSnapshot) : Except PublicationRefusal Bool :=
  match hasConsistentSnapshotBinding snapshot with
  | .error refusal => .error refusal
  | .ok false => .ok false
  | .ok true =>
      if isCompleteImmersiveConfiguration platform.toReaderPlatform snapshot.configuration = false
      then .ok false
      else
        (digestPortalPublicationConfiguration platform snapshot.configuration).map fun digest ↦
          digest == snapshot.configurationDigest

/-! ## Building -/

/-- The configuration publishing a source with a destination would store. -/
def publicationConfiguration (source : PortalPublicationSource)
    (content : ImmersivePublicationContent) (destination : VerifiedPublicationDestination)
    (retrievedAt : Int) : ImmersiveConfiguration where
  toImmersivePublicationContent := content
  reviewGateway :=
    { privateFeedbackThreshold := source.privateFeedbackThreshold
      skipPrivateRating := if source.skipPrivateRating = true then some true else none
      googleReviewUri := destination.uri }
  googleReviewBinding := ⟨retrievedAt, destination.sourceEpoch, destination.profileVersion⟩

/-- The row an envelope stores with a configuration. -/
def PublicationEnvelope.snapshot (input : PublicationEnvelope) (digest : String)
    (configuration : ImmersiveConfiguration) : PortalPublicationSnapshot where
  id := input.id
  organizationId := input.organizationId
  propertyId := input.propertyId
  portalId := input.portalId
  version := input.version
  configurationDigest := digest
  configuration := configuration
  destinationUri := input.destination.uri
  destinationRetrievedAt := input.destination.retrievedAt
  destinationSourceEpoch := input.destination.sourceEpoch
  destinationProfileVersion := input.destination.profileVersion
  createdBy := input.createdBy
  createdAt := input.createdAt

/-- The snapshot publishing a source would store, or the first thing to fix. What the reader would
refuse is never written. -/
def buildPortalPublicationSnapshot (platform : PublicationPlatform) (input : PublicationEnvelope)
    (source : PortalPublicationSource) :
    Except PublicationRefusal PortalPublicationSnapshot := do
  assertPublicationEnvelope input source
  let resolution := resolvePortalPublication platform.toResolverPlatform source
  match resolution.findings.blockers with
  | first :: _ => .error (.portal .publicationSnapshotUnavailable (describeBlocker first))
  | [] => do
      let retrievedAt ← toISOString input.destination.retrievedAt
      let configuration :=
        publicationConfiguration source resolution.content input.destination retrievedAt
      let digest ← digestPortalPublicationConfiguration platform configuration
      let snapshot := input.snapshot digest configuration
      if (← verifyPortalPublicationSnapshot platform snapshot) = true then .ok snapshot
      else .error (.portal .publicationSnapshotUnavailable
        "The Portal’s content is incomplete or out of range, so it cannot be published")

/-! ## Comparing with the working copy -/

/-- What a snapshot published, in the shape of a working copy's resolved content. -/
def publishedContent (snapshot : PortalPublicationSnapshot) : ComparableContent where
  organizationId := snapshot.organizationId
  propertyId := snapshot.propertyId
  privateFeedbackThreshold := snapshot.configuration.reviewGateway.privateFeedbackThreshold
  skipPrivateRating := snapshot.configuration.reviewGateway.skipPrivateRating == some true
  content := snapshot.configuration.toImmersivePublicationContent

/-- The working copy, resolved exactly as publishing would resolve it. -/
def comparableWorkingContent (platform : PublicationPlatform)
    (workingCopy : PortalPublicationSource) : ComparableContent where
  organizationId := workingCopy.organizationId
  propertyId := workingCopy.propertyId
  privateFeedbackThreshold := workingCopy.privateFeedbackThreshold
  skipPrivateRating := workingCopy.skipPrivateRating
  content := (resolvePortalPublication platform.toResolverPlatform workingCopy).content

/-- Whether the working copy still says what a snapshot published. -/
def workingCopyMatchesSnapshot (platform : PublicationPlatform)
    (workingCopy : PortalPublicationSource) (snapshot : PortalPublicationSnapshot) :
    Except PublicationRefusal Bool := do
  let working ← canonicalText platform (.content (comparableWorkingContent platform workingCopy))
  let published ← canonicalText platform (.content (publishedContent snapshot))
  return working == published

end ReputationKey.Portal
