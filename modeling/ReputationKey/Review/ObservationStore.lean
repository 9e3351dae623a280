import Mathlib.Data.List.MinMax
import Mathlib.Data.Prod.Lex
import ReputationKey.Review.CommandStore
import ReputationKey.Review.ObservationDecision

/-!
# The Google reply observation store

One transaction under the review's lock: replay lookup, source fence, read-generation fence,
decision, append of the observation that becomes the head, and the settlement of the local
publication it closes or confirms. Follows
`src/src/contexts/review/infrastructure/google-reply-observation-store.ts:60–911` with
`google-reply-observation-fence.ts`, `google-reply-observation-clock.ts`,
`google-reply-superseded-read.ts` and `google-reply-publication-candidate.ts` beside it.
-/

namespace ReputationKey.Review

/-- One observation command. A targeted read names the attempt it was made for; every other read
is a provider snapshot. Follows
`src/src/contexts/review/application/ports/google-reply-observation-store.port.ts`. -/
structure RecordGoogleReplyObservation where
  observationKey : String
  propertyId : String
  sourceEpoch : Nat
  materialReviewRevision : Nat
  readGeneration : Nat
  publicationTarget : Option (Nat × Nat × Nat)
  observedText : Option Text
  providerUpdatedAt : Option Int
  observedAt : Int
  contentExpiresAt : Int
  deriving DecidableEq, Repr

/-- What the caller of one observation is told. -/
structure ObservationResult where
  observationRevision : Nat
  change : ObservationChange
  resolution : ObservationResolution
  duplicate : Bool
  deriving DecidableEq, Repr

/-- Whether a character is a lower-case hexadecimal digit. -/
def isLowerHexDigit (c : Char) : Bool := ('0' ≤ c && c ≤ '9') || ('a' ≤ c && c ≤ 'f')

/-- Whether the command is one the store accepts. Follows
`src/src/contexts/review/infrastructure/google-reply-observation-fence.ts`. -/
def RecordGoogleReplyObservation.isWellFormed (input : RecordGoogleReplyObservation) : Bool :=
  input.observationKey.length == 64 && input.observationKey.toList.all isLowerHexDigit &&
    decide (input.observedAt < input.contentExpiresAt) &&
    decide (1 ≤ input.materialReviewRevision) &&
    decide (input.materialReviewRevision ≤ maxSafeInteger) &&
    decide (1 ≤ input.readGeneration) && decide (input.readGeneration ≤ maxSafeInteger) &&
    decide (input.sourceEpoch ≤ maxSafeInteger) &&
    input.publicationTarget.all fun target ↦
      decide (1 ≤ target.2.1) && decide (target.2.1 ≤ maxSafeInteger) &&
        decide (1 ≤ target.2.2) && decide (target.2.2 ≤ maxSafeInteger)

/-- The digest that binds an observation key to its evidence. Follows
`src/src/contexts/review/domain/google-reply-observation.ts:40–58`. -/
def RecordGoogleReplyObservation.inputDigest (platform : Platform)
    (input : RecordGoogleReplyObservation) : Digest :=
  platform.identityDigest
    { propertyId := input.propertyId
      sourceEpoch := input.sourceEpoch
      materialReviewRevision := input.materialReviewRevision
      isTargeted := input.publicationTarget.isSome
      observedDigest := input.observedText.map platform.googleReplyTextDigest
      providerUpdatedAt := input.providerUpdatedAt
      publicationTarget := input.publicationTarget }

/-- The source the read was made for. -/
def RecordGoogleReplyObservation.scope (input : RecordGoogleReplyObservation) : ObservationScope :=
  ⟨input.sourceEpoch, input.materialReviewRevision⟩

/-- The attempt a read may attribute: the one a targeted read names, otherwise the newest of the
reply's cycle. Follows
`src/src/contexts/review/infrastructure/google-reply-observation-store.ts:145–185`. -/
def readAttributableAttempt (s : Store) (internal : Option Reply)
    (publicationTarget : Option (Nat × Nat × Nat)) : Option PublicationAttempt :=
  internal.bind fun reply ↦
    match publicationTarget with
    | some (replyId, cycle, number) =>
        s.attempts.find? fun attempt ↦
          attempt.replyId == replyId && attempt.publicationCycle == cycle &&
            attempt.attemptNumber == number
    | none =>
        List.argmax PublicationAttempt.attemptNumber <| s.attempts.filter fun attempt ↦
          attempt.replyId == reply.id && attempt.publicationCycle == reply.publicationCycle

/-- A manager's authorization that has not produced a provider call. Follows
`src/src/contexts/review/infrastructure/google-reply-observation-store.ts:188–217`. -/
def readZeroAttemptAuthorization (s : Store) (internal : Option Reply) : Option Nat :=
  internal.bind fun reply ↦
    if reply.status = .approved ∧ reply.publicationState = some .authorized ∧
        reply.publicationAttempts = 0 then
      (s.authorizationOf reply.id reply.publicationCycle).map (·.publicationCycle)
    else
      none

/-- The local publication facts an observation may act on. -/
structure PublicationEvidence where
  internal : Option Reply
  attempt : Option PublicationAttempt
  zeroAttemptAuthorization : Option Nat
  publicationTarget : Option (Nat × Nat × Nat)
  deriving DecidableEq, Repr

/-- Whether a targeted read still names the reply's current attempt. -/
def targetIsCurrent (internal : Option Reply) (target : Nat × Nat × Nat) : Bool :=
  internal.any fun reply ↦
    reply.id == target.1 && reply.publicationCycle == target.2.1 &&
      reply.publicationAttempts == target.2.2

/-- Read the publication evidence; a targeted read that lost its attempt throws. Follows
`src/src/contexts/review/infrastructure/google-reply-observation-store.ts:228–270`. -/
def loadPublicationEvidence (s : Store) (input : RecordGoogleReplyObservation) :
    Except ReviewError PublicationEvidence :=
  if input.publicationTarget.all (targetIsCurrent s.reply) then
    .ok
      { internal := s.reply
        attempt := readAttributableAttempt s s.reply input.publicationTarget
        zeroAttemptAuthorization := readZeroAttemptAuthorization s s.reply
        publicationTarget := input.publicationTarget }
  else
    .error ⟨.invalidTransition,
      "Targeted Google reply observation no longer matches its publication attempt"⟩

/-- The digest of the text last confirmed in an earlier cycle. Follows
`src/src/contexts/review/infrastructure/google-reply-publication-candidate.ts:29–53`. -/
def readEarlierConfirmedDigest (s : Store) (attempt : PublicationAttempt) : Option Digest :=
  if !isOpenAttemptOutcome attempt.outcome then
    none
  else
    let earlierConfirmed := s.attempts.filter fun earlier ↦
      earlier.replyId == attempt.replyId && earlier.outcome == .confirmed &&
        decide (earlier.publicationCycle < attempt.publicationCycle)
    (List.argmax (fun earlier : PublicationAttempt ↦
      toLex (earlier.publicationCycle, earlier.attemptNumber)) earlierConfirmed).map
        (·.expectedReplyDigest)

/-- The attempt as the decision reads it. Follows
`src/src/contexts/review/infrastructure/google-reply-publication-candidate.ts:56–76`. -/
def readPublicationCandidate (s : Store) (evidence : PublicationEvidence) :
    Option PublicationCandidate :=
  match evidence.internal, evidence.attempt with
  | some internal, some attempt =>
      some
        { publicationCycle := attempt.publicationCycle
          attemptNumber := attempt.attemptNumber
          sourceEpoch := attempt.sourceEpoch
          materialReviewRevision := attempt.materialReviewRevision
          expectedReplyDigest := attempt.expectedReplyDigest
          expectedReplyText := some internal.text
          earlierConfirmedDigest := readEarlierConfirmedDigest s attempt
          outcome := attempt.outcome }
  | _, _ => none

/-- A different current live reply closes the open attempt of the same source. Follows
`src/src/contexts/review/infrastructure/google-reply-observation-store.ts:276–290`. -/
def supersedesCurrentAttempt (resolution : ObservationResolution)
    (candidate : Option PublicationCandidate) (scope : ObservationScope) : Bool :=
  resolution == .externalCurrentLive &&
    candidate.any fun candidate ↦ isConfirmableCurrentAttempt candidate scope

/-- A publication state in which a write may already have reached Google. -/
def isUncertainPublicationState (state : PublicationStateInput) : Bool :=
  state == some .sending || state == some .pendingObservation || state == some .ambiguous

/-- A status a provider read may settle. -/
def isClaimablePublicationStatus (status : ReplyStatus) : Bool :=
  status == .approved || status == .publishFailed

/-- An in-flight reply with no attempt row behind it, under a targeted read. Follows
`src/src/contexts/review/infrastructure/google-reply-observation-store.ts:295–312`. -/
def settlesLegacyUnattributedAttempt (evidence : PublicationEvidence) : Bool :=
  evidence.publicationTarget.isSome && evidence.attempt.isNone &&
    evidence.internal.any fun internal ↦ isUncertainPublicationState internal.publicationState

/-- The draft provider truth leaves of a publication it closes. -/
def cancelledReplySet (row : Reply) : Reply :=
  { row with
    status := .draft
    publicationState := some .cancelled
    publicationLastErrorClass := none
    reconcileDueAt := none }

/-- Write a set clause to the reply row a predicate selects; a miss throws. -/
def updateReplyOrThrow (s : Store) (selects : Reply → Bool) (set : Reply → Reply)
    (message : String) : Except ReviewError Store :=
  match s.reply.filter selects with
  | none => .error ⟨.invalidTransition, message⟩
  | some row => .ok { s with reply := some (applyReplyTrigger row (set row)) }

/-- Fence the in-flight publication at this observation and mark its attempt superseded. Follows
`src/src/contexts/review/infrastructure/google-reply-observation-store.ts:343–404`. -/
def supersedeExternalCurrentAttempt (s : Store) (internal : Reply)
    (attempt : PublicationAttempt) : Except ReviewError Store :=
  match updateReplyOrThrow s (fun row ↦
      row.id == internal.id && row.publicationCycle == attempt.publicationCycle &&
        row.publicationAttempts == attempt.attemptNumber &&
        isClaimablePublicationStatus row.status &&
        (isUncertainPublicationState row.publicationState || endedWithoutAnAnswer row))
      cancelledReplySet "Reply changed while recording an external current Google reply" with
  | .error e => .error e
  | .ok cancelled =>
      let selects := fun row : PublicationAttempt ↦
        row.replyId == attempt.replyId && row.publicationCycle == attempt.publicationCycle &&
          row.attemptNumber == attempt.attemptNumber && isOpenAttemptOutcome row.outcome
      if cancelled.attempts.any selects then
        .ok (cancelled.setAttempts selects (PublicationAttempt.settle .superseded))
      else
        .error ⟨.invalidTransition,
          "Publication attempt changed while recording external provider truth"⟩

/-- Any fresh head supersedes an authorization with no attempt. Follows
`src/src/contexts/review/infrastructure/google-reply-observation-store.ts:413–442`. -/
def cancelZeroAttemptAuthorization (s : Store) (internal : Reply) (cycle : Nat) :
    Except ReviewError Store :=
  updateReplyOrThrow s (fun row ↦
      row.id == internal.id && row.publicationCycle == cycle && row.publicationAttempts == 0 &&
        row.stateRevision == internal.stateRevision && row.status == .approved &&
        row.publicationState == some .authorized)
    cancelledReplySet "Reply changed while superseding its zero-attempt authorization"

/-- A targeted read settles an in-flight reply that has no attempt row. Follows
`src/src/contexts/review/infrastructure/google-reply-observation-store.ts:449–476`. -/
def settleLegacyUnattributedAttempt (s : Store) (internal : Reply) (target : Nat × Nat × Nat) :
    Except ReviewError Store :=
  updateReplyOrThrow s (fun row ↦
      row.id == internal.id && row.publicationCycle == target.2.1 &&
        row.publicationAttempts == target.2.2 && isClaimablePublicationStatus row.status &&
        isUncertainPublicationState row.publicationState)
    cancelledReplySet "Legacy publication changed while recording provider truth"

/-- The only path that publishes a reply: an exact observation of the text the attempt wrote.
Follows `src/src/contexts/review/infrastructure/google-reply-observation-store.ts:480–536`. -/
def confirmReplyOnGoogle (s : Store) (internal : Reply) (attempt : PublicationAttempt)
    (observationRevision : Nat) : Except ReviewError Store :=
  match updateReplyOrThrow s (fun row ↦
      row.id == internal.id && row.publicationCycle == attempt.publicationCycle &&
        isClaimablePublicationStatus row.status &&
        (isUncertainPublicationState row.publicationState ||
          row.publicationState == some .terminal))
      (fun row ↦
        { row with
          status := .published
          publicationState := some .published
          reconcileDueAt := none })
      "Reply changed while confirming the Google observation" with
  | .error e => .error e
  | .ok confirmed =>
      .ok (confirmed.setAttempts
        (fun row ↦
          row.replyId == attempt.replyId && row.publicationCycle == attempt.publicationCycle &&
            row.attemptNumber == attempt.attemptNumber)
        fun row ↦
          { row with
            outcome := .confirmed
            confirmedObservationRevision := some observationRevision })

/-- A resolution that acts on nothing. Follows
`src/src/contexts/review/infrastructure/google-reply-observation-store.ts:543–548`. -/
def isRestatingResolution (decision : ObservationDecision) : Bool :=
  decision.resolution == .unchanged ||
    (decision.resolution == .diverged && decision.change == .unchanged)

/-- A snapshot read that restates the current head. Follows
`src/src/contexts/review/infrastructure/google-reply-observation-store.ts:565–585`. -/
def restatesCurrentHead (input : RecordGoogleReplyObservation) (decision : ObservationDecision)
    (head : Option GoogleReplyObservation) (supersedes : Bool) (evidence : PublicationEvidence) :
    Bool :=
  match head with
  | none => false
  | some head =>
      input.publicationTarget.isNone && isRestatingResolution decision &&
        !supersedes && !settlesLegacyUnattributedAttempt evidence &&
        head.state == decision.state && head.normalizedDigest == decision.normalizedDigest &&
        head.sourceEpoch == input.sourceEpoch &&
        head.materialReviewRevision == input.materialReviewRevision

/-- Move the head's content clock forward; a head that holds no live reply keeps its clock. Follows
`src/src/contexts/review/infrastructure/google-reply-observation-clock.ts:56–81`. -/
def renewHeadContentClock (s : Store) (contentExpiresAt : Int) : Store :=
  match s.observations with
  | [] => s
  | head :: rest =>
      if head.state = .live ∧ head.contentState = .active ∧
          head.contentExpiresAt < contentExpiresAt then
        { s with observations := { head with contentExpiresAt := contentExpiresAt } :: rest }
      else
        s

/-- The row an observation appends. -/
def observationRow (platform : Platform) (input : RecordGoogleReplyObservation)
    (decision : ObservationDecision) (observationRevision : Nat) : GoogleReplyObservation :=
  { observationRevision := observationRevision
    observationKey := input.observationKey
    inputDigest := input.inputDigest platform
    propertyId := input.propertyId
    sourceEpoch := input.sourceEpoch
    materialReviewRevision := input.materialReviewRevision
    readGeneration := input.readGeneration
    state := decision.state
    change := decision.change
    resolution := decision.resolution
    isTargeted := input.publicationTarget.isSome
    normalizedDigest := decision.normalizedDigest
    matchedAttempt := decision.matchedAttempt
    providerUpdatedAt := input.providerUpdatedAt
    contentState := .active
    observedAt := input.observedAt
    contentExpiresAt := input.contentExpiresAt }

/-- Run one settlement rule, when it applies, and assign its cancellation fact. -/
def settleWith (rule : Option (Store → Except ReviewError Store)) (s : Store)
    (fact : Option Fact) : Except ReviewError (Store × Option Fact) :=
  match rule with
  | none => .ok (s, fact)
  | some run =>
      match run s with
      | .error e => .error e
      | .ok settled => .ok (settled, some (.publicationCancelled .providerTruth))

/-- The supersession of the open attempt, when the read shows another reply. -/
def supersedeRule (evidence : PublicationEvidence) (supersedes : Bool) :
    Option (Store → Except ReviewError Store) :=
  match supersedes, evidence.internal, evidence.attempt with
  | true, some internal, some attempt =>
      some fun s ↦ supersedeExternalCurrentAttempt s internal attempt
  | _, _, _ => none

/-- The cancellation of an authorization with no attempt, when there is one. -/
def zeroAttemptRule (evidence : PublicationEvidence) :
    Option (Store → Except ReviewError Store) :=
  match evidence.zeroAttemptAuthorization, evidence.internal with
  | some cycle, some internal => some fun s ↦ cancelZeroAttemptAuthorization s internal cycle
  | _, _ => none

/-- The settlement of a legacy attempt, when a targeted read finds one. -/
def legacyRule (evidence : PublicationEvidence) : Option (Store → Except ReviewError Store) :=
  if settlesLegacyUnattributedAttempt evidence then
    match evidence.internal, evidence.publicationTarget with
    | some internal, some target => some fun s ↦ settleLegacyUnattributedAttempt s internal target
    | _, _ => none
  else
    none

/-- Settle whichever local publication this provider truth closes, with the last fact assigned.
Follows `src/src/contexts/review/infrastructure/google-reply-observation-store.ts:656–690`. -/
def settleSupersededPublication (s : Store) (evidence : PublicationEvidence)
    (supersedes : Bool) : Except ReviewError (Store × Option Fact) :=
  match settleWith (supersedeRule evidence supersedes) s none with
  | .error e => .error e
  | .ok (superseded, fact) =>
      match settleWith (zeroAttemptRule evidence) superseded fact with
      | .error e => .error e
      | .ok (cancelled, fact) => settleWith (legacyRule evidence) cancelled fact

/-- Confirm the reply when the read shows exactly the attempt's text. -/
def confirmWhenExact (s : Store) (evidence : PublicationEvidence)
    (decision : ObservationDecision) (observationRevision : Nat) : Except ReviewError Store :=
  match decision.resolution, evidence.internal, evidence.attempt with
  | .confirmedOnGoogle, some internal, some attempt =>
      (confirmReplyOnGoogle s internal attempt observationRevision).map (·.record .published)
  | _, _, _ => .ok s

/-- Append the observation, make it the head, settle or confirm the local publication, and record
the facts. Follows
`src/src/contexts/review/infrastructure/google-reply-observation-store.ts:842–908`. -/
def applyObservation (platform : Platform) (s : Store) (input : RecordGoogleReplyObservation)
    (decision : ObservationDecision) (evidence : PublicationEvidence) (supersedes : Bool) :
    Except ReviewError (Store × ObservationResult) :=
  let observationRevision := (s.head.map (·.observationRevision)).getD 0 + 1
  if maxSafeInteger < observationRevision then
    .error ⟨.invalidTransition, "Observation revision exhausted"⟩
  else
    let row := observationRow platform input decision observationRevision
    match settleSupersededPublication { s with observations := row :: s.observations } evidence
        supersedes with
    | .error e => .error e
    | .ok (settled, cancellationFact) =>
        match confirmWhenExact (settled.recordOptional cancellationFact) evidence decision
            observationRevision with
        | .error e => .error e
        | .ok confirmed =>
            let observed :=
              if decision.resolution = .unchanged then none
              else some (.observed observationRevision decision.change decision.resolution)
            .ok (confirmed.recordOptional observed,
              ⟨observationRevision, decision.change, decision.resolution, false⟩)

/-- The result of a committed row told again. Follows
`src/src/contexts/review/infrastructure/google-reply-observation-result.ts`. -/
def resultFromRow (row : GoogleReplyObservation) : ObservationResult :=
  ⟨row.observationRevision, row.change, row.resolution, true⟩

/-- The head as the decision compares it. -/
def GoogleReplyObservation.asPrevious (head : GoogleReplyObservation) :
    PreviousGoogleReplyObservation :=
  ⟨head.state, head.normalizedDigest, head.sourceEpoch, head.materialReviewRevision⟩

/-- Decide new evidence that passed every fence, and write what it says. Follows
`src/src/contexts/review/infrastructure/google-reply-observation-store.ts:795–908`. -/
def decideAndApply (platform : Platform) (s : Store) (input : RecordGoogleReplyObservation) :
    Except ReviewError (Store × ObservationResult) :=
  match loadPublicationEvidence s input with
  | .error e => .error e
  | .ok evidence =>
      let candidate := readPublicationCandidate s evidence
      let decision := decideGoogleReplyObservation platform input.scope input.observedText
        (s.head.map (·.asPrevious)) candidate
      if decision.resolution = .earlierPublicationLive then
        .ok (renewHeadContentClock s input.contentExpiresAt,
          ⟨(s.head.map (·.observationRevision)).getD 0, decision.change, decision.resolution,
            true⟩)
      else
        let supersedes := supersedesCurrentAttempt decision.resolution candidate input.scope
        if restatesCurrentHead input decision s.head supersedes evidence then
          match s.head with
          | some head => .ok (renewHeadContentClock s input.contentExpiresAt, resultFromRow head)
          | none => applyObservation platform s input decision evidence supersedes
        else
          applyObservation platform s input decision evidence supersedes

/-- Record one observation of the reply on Google. Follows
`src/src/contexts/review/infrastructure/google-reply-observation-store.ts:761–911`. -/
def recordObservation (platform : Platform) (s : Store) (input : RecordGoogleReplyObservation) :
    Except ReviewError (Store × ObservationResult) :=
  if !input.isWellFormed then
    .error ⟨.invalidInput, "Invalid Google reply observation fence"⟩
  else if s.review.propertyId ≠ input.propertyId then
    .error ⟨.reviewNotFound, "Review not found"⟩
  else
    match s.observations.find? (·.observationKey == input.observationKey) with
    | some replayed =>
        if replayed.propertyId ≠ input.propertyId ∨
            replayed.inputDigest ≠ input.inputDigest platform then
          .error ⟨.invalidTransition,
            "Observation idempotency key was reused for different provider evidence"⟩
        else
          .ok (s, resultFromRow replayed)
    | none =>
        if s.review.sourceEpoch ≠ input.sourceEpoch ∨
            s.review.sourceRevision ≠ input.materialReviewRevision then
          .error ⟨.invalidTransition,
            "Google reply observation is stale for the current Review source"⟩
        else
          match s.head with
          | none => decideAndApply platform s input
          | some head =>
              if input.readGeneration ≤ head.readGeneration then
                if input.publicationTarget.isNone then
                  .ok (s, ⟨head.observationRevision, .unchanged, .unchanged, true⟩)
                else
                  .error ⟨.invalidTransition,
                    "Google reply observation was superseded by a newer provider read"⟩
              else
                decideAndApply platform s input

end ReputationKey.Review
