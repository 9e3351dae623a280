import ReputationKey.Review.Guards

/-!
# The reply command store

Every write the command store makes to a reply and its authorization and attempt rows, each one
transaction: `none` when a guard missed, an error when the transaction threw and rolled back.
What a transaction reads outside these rows (the AI binding, the Property, a manager's authority,
dispatch evidence, the clock) is an argument. Follows
`src/src/contexts/review/infrastructure/reply-command-store.ts:99–1048`,
`src/src/contexts/review/infrastructure/unclaimable-publication.ts` and the draft save of
`src/src/contexts/review/infrastructure/repositories/reply.repository.ts:579–596`.
-/

namespace ReputationKey.Review

/-- What one transaction of a store leaves: an error, no write, or the rows it wrote. -/
abbrev Write := Except ReviewError (Option Store)

/-- How long an authorized or claimed cycle may sit before the sweep looks at it, in
milliseconds. -/
def publicationRecoveryReconcileDelayMs : Int := 20 * 60 * 1000

/-- The convergence window after an accepted write, in milliseconds. -/
def providerObservationReconcileDelayMs : Int := 60 * 1000

/-- The default delay before an ambiguous publication is checked, in milliseconds. -/
def ambiguousReconcileDelayMs : Int := 15 * 60 * 1000

/-- Whether every counter of an intent is one the store accepts. -/
def PublicationIntent.isWellFormed (intent : PublicationIntent) : Bool :=
  !(intent.userId.toList.all fun c ↦ isJsWhitespaceCode c.toNat) &&
    decide (intent.sourceEpoch ≤ maxSafeInteger) &&
    decide (1 ≤ intent.materialReviewRevision) &&
    decide (intent.materialReviewRevision ≤ maxSafeInteger) &&
    decide (intent.baseObservationRevision ≤ maxSafeInteger)

/-- The cycle an authorization opens; an intent for another cycle throws. Follows
`src/src/contexts/review/infrastructure/reply-command-store.ts:106–147`. -/
def assertPublicationIntentMatchesCycle (snapshot : Reply) (intent : PublicationIntent) :
    Except ReviewError Nat :=
  match nextPublicationCycle snapshot.publicationCycle with
  | .error e => .error e
  | .ok nextCycle =>
      if intent.publicationCycle = nextCycle ∧ intent.isWellFormed then
        .ok nextCycle
      else
        .error ⟨.invalidTransition,
          "Reply publication intent does not match the authorized cycle"⟩

/-- Whether the intent's fence is the current review source and provider head. Follows
`src/src/contexts/review/infrastructure/reply-command-store.ts:224–244`. -/
def authorizationFenceIsCurrent (intent : PublicationIntent) (s : Store) : Bool :=
  s.review.sourceContentState == .active &&
    s.review.sourceEpoch == intent.sourceEpoch &&
    s.review.sourceRevision == intent.materialReviewRevision &&
    match s.head with
    | none => intent.baseObservationRevision == 0
    | some head =>
        head.observationRevision == intent.baseObservationRevision &&
          head.sourceEpoch == intent.sourceEpoch &&
          head.materialReviewRevision == intent.materialReviewRevision &&
          head.contentState == .active

/-- The authorization row of one cycle of a reply. -/
def Store.authorizationOf (s : Store) (replyId cycle : Nat) : Option PublicationAuthorization :=
  s.authorizations.find? fun authorization ↦
    authorization.replyId == replyId && authorization.publicationCycle == cycle

/-- Insert an authorization row; a second row for its cycle violates the primary key. -/
def insertAuthorization (s : Store) (authorization : PublicationAuthorization) :
    Except ReviewError Store :=
  if (s.authorizationOf authorization.replyId authorization.publicationCycle).isSome then
    .error ⟨.repoUpsertFailed, "duplicate key value violates unique constraint"⟩
  else
    .ok { s with authorizations := authorization :: s.authorizations }

/-- Open one publication cycle under the review's lock. Follows
`src/src/contexts/review/infrastructure/reply-command-store.ts:490–549`. -/
def authorizePublicationCycle (platform : Platform) (s : Store) (snapshot : Reply)
    (command : ReplyCommand) (intent : PublicationIntent) (publicationCycle : Nat)
    (bindingIsCurrent actorAllowed : Bool) (updates : Reply → Reply) (occurredAt : Int) : Write :=
  if s.review.propertyId ≠ intent.propertyId ∨ !authorizationFenceIsCurrent intent s ∨
      !actorAllowed then
    .ok none
  else
    match guardedReplyUpdate s snapshot command bindingIsCurrent (fun row ↦
        { updates row with
          publicationState := some .authorized
          publicationCycle := publicationCycle
          publicationAttempts := 0
          publicationLastErrorClass := none
          reconcileDueAt := some (occurredAt + publicationRecoveryReconcileDelayMs) }) with
    | none => .ok none
    | some (written, saved) =>
        (insertAuthorization written
          { replyId := snapshot.id
            propertyId := intent.propertyId
            publicationCycle := publicationCycle
            sourceEpoch := intent.sourceEpoch
            materialReviewRevision := intent.materialReviewRevision
            baseObservationRevision := intent.baseObservationRevision
            authorizedByUserId := intent.userId
            replyStateRevision := saved.stateRevision
            expectedReplyDigest := platform.googleReplyTextDigest saved.text
            authorizedAt := occurredAt }).map some

/-- The command an authorizing write stands for: an approval carries its fact, a retry none. -/
def authorizingCommand (isApproval : Bool) : ReplyCommand :=
  if isApproval then .approve else .retryPublication

/-- The lifecycle fact of an authorizing write. -/
def authorizingFact (isApproval : Bool) : Option Fact :=
  if isApproval then some .approved else none

/-- Approval and retry: one write told apart by the approved fact. Follows
`src/src/contexts/review/infrastructure/reply-command-store.ts:606–653`. -/
def markPublicationAuthorized (platform : Platform) (s : Store) (snapshot : Reply)
    (intent : PublicationIntent) (isApproval bindingIsCurrent actorAllowed : Bool)
    (occurredAt : Int) : Write :=
  if !replyCommandMayStart (authorizingCommand isApproval) snapshot ∨
      nextPublicationState snapshot.publicationState .authorize = none then
    .ok none
  else
    match assertPublicationIntentMatchesCycle snapshot intent with
    | .error e => .error e
    | .ok publicationCycle =>
        match authorizePublicationCycle platform s snapshot (authorizingCommand isApproval) intent
            publicationCycle bindingIsCurrent actorAllowed
            (fun row ↦ { row with status := .approved }) occurredAt with
        | .error e => .error e
        | .ok none => .ok none
        | .ok (some saved) =>
            .ok (some ((saved.recordOptional (authorizingFact isApproval)).record
              (.publicationRequested intent)))

/-- Edit a published reply and republish it. Follows
`src/src/contexts/review/infrastructure/reply-command-store.ts:990–1013`. -/
def editPublishedReply (platform : Platform) (s : Store) (snapshot : Reply)
    (intent : PublicationIntent) (text : Text) (actorAllowed : Bool) (occurredAt : Int) : Write :=
  if !replyCommandMayStart .editPublished snapshot then
    .ok none
  else
    match assertPublicationIntentMatchesCycle snapshot intent with
    | .error e => .error e
    | .ok publicationCycle =>
        match authorizePublicationCycle platform s snapshot .editPublished intent
            publicationCycle true actorAllowed
            (fun row ↦ { row with text := text, status := .approved }) occurredAt with
        | .error e => .error e
        | .ok none => .ok none
        | .ok (some saved) =>
            .ok (some ((saved.record .updated).record (.publicationRequested intent)))

/-- Rewrite the text of an unsubmitted reply. Follows
`src/src/contexts/review/infrastructure/repositories/reply.repository.ts:579–596`. -/
def saveDraft (s : Store) (snapshot : Reply) (text : Text) : Write :=
  .ok ((guardedReplyUpdate s snapshot .saveDraft true fun row ↦
    { row with text := text, status := .draft }).map Prod.fst)

/-- Hand a draft to an approver. Follows
`src/src/contexts/review/infrastructure/reply-write-guards.ts:262–284`. -/
def submitReply (s : Store) (snapshot : Reply) (bindingIsCurrent : Bool) : Write :=
  .ok ((guardedReplyUpdate s snapshot .submit bindingIsCurrent fun row ↦
    { row with status := .pendingApproval }).map fun written ↦ written.1.record .submitted)

/-- Send a reply back to its author. Follows
`src/src/contexts/review/infrastructure/reply-command-store.ts:591–592`. -/
def rejectReply (s : Store) (snapshot : Reply) : Write :=
  .ok ((guardedReplyUpdate s snapshot .reject true fun row ↦
    { row with status := .rejected }).map fun written ↦ written.1.record .rejected)

/-- What one transaction reads of the Property. Follows
`src/src/contexts/review/infrastructure/publication-property-admission.ts:10–13`. -/
structure PublicationProperty where
  lifecycleIsActive : Bool
  sourceEpoch : Nat
  deriving DecidableEq, Repr

/-- Whether the Property still admits a cycle authorized at this source epoch. Follows
`src/src/contexts/review/infrastructure/publication-property-admission.ts:50–60`. -/
def propertyAdmitsCycle (property : Option PublicationProperty)
    (authorization : PublicationAuthorization) : Bool :=
  match property with
  | none => false
  | some property =>
      property.lifecycleIsActive && property.sourceEpoch == authorization.sourceEpoch

/-- What the claim's transaction reads outside the reply's own rows. -/
structure ClaimEnvironment where
  bindingIsCurrent : Bool
  inputsAreCurrent : Bool
  property : Option PublicationProperty
  actorAllowed : Bool
  now : Int
  deriving DecidableEq, Repr

/-- The fence a publish job carries into its claim. Follows
`src/src/contexts/review/application/ports/reply-command-store.port.ts`. -/
structure PublicationAttemptStart where
  providerOperationKey : String
  propertyId : String
  sourceEpoch : Nat
  materialReviewRevision : Nat
  baseObservationRevision : Nat
  deriving DecidableEq, Repr

/-- Whether the fence is one the claim accepts; it throws on any other. -/
def PublicationAttemptStart.isWellFormed (attempt : PublicationAttemptStart) : Bool :=
  decide (1 ≤ attempt.providerOperationKey.length) &&
    decide (attempt.providerOperationKey.length ≤ 255) &&
    decide (attempt.sourceEpoch ≤ maxSafeInteger) &&
    decide (1 ≤ attempt.materialReviewRevision) &&
    decide (attempt.materialReviewRevision ≤ maxSafeInteger) &&
    decide (attempt.baseObservationRevision ≤ maxSafeInteger)

/-- The stored authorization of the snapshot's cycle, while it still describes the text, the
source and the provider truth this attempt claims. Follows
`src/src/contexts/review/infrastructure/reply-command-store.ts:389–426`. -/
def readCurrentPublicationAuthorization (platform : Platform) (s : Store) (snapshot : Reply)
    (attempt : PublicationAttemptStart) : Option PublicationAuthorization :=
  match s.authorizationOf snapshot.id snapshot.publicationCycle with
  | none => none
  | some authorization =>
      if authorization.propertyId == attempt.propertyId &&
          authorization.sourceEpoch == attempt.sourceEpoch &&
          authorization.materialReviewRevision == attempt.materialReviewRevision &&
          authorization.baseObservationRevision == attempt.baseObservationRevision &&
          platform.googleReplyTextDigest snapshot.text == authorization.expectedReplyDigest &&
          s.review.sourceContentState == .active &&
          s.review.sourceEpoch == authorization.sourceEpoch &&
          s.review.sourceRevision == authorization.materialReviewRevision &&
          (match s.head with
            | none => true
            | some head =>
                head.sourceEpoch == authorization.sourceEpoch &&
                  head.materialReviewRevision == authorization.materialReviewRevision &&
                  head.contentState == .active) then
        some authorization
      else
        none

/-- Whether an AI reply was confirmed with nothing of its current cycle dispatched. -/
def isUndispatchedOpenCycle (row : Reply) : Bool :=
  row.publicationState == some .requested || row.publicationState == some .authorized

/-- Whether a reply is back outside publication after a cancelled cycle. -/
def isBackAfterCancelledCycle (row : Reply) : Bool :=
  row.publicationState == some .cancelled &&
    (row.status == .draft || row.status == .pendingApproval || row.status == .rejected)

/-- The shape a withdrawal leaves of a reply it keeps: an empty human draft. -/
def emptiedByWithdrawal (row : Reply) : Reply :=
  { row with
    status := .draft
    publicationState := some .cancelled
    publicationLastErrorClass := none
    reconcileDueAt := none
    text := []
    aiGenerated := false }

/-- Withdraw unedited AI text that was not dispatched. Follows
`src/src/shared/db/ai/ai-draft-purge.ts:181–250`. -/
def withdrawAiDrafts (s : Store) : Store :=
  match s.reply with
  | none => s
  | some row =>
      if !row.aiGenerated then
        s
      else if row.publicationState = none then
        -- No manager ever confirmed it and nothing references the row.
        let deleted := { s with reply := none }
        if row.status = .pendingApproval then
          deleted.record (.publicationCancelled .aiDraftWithdrawn)
        else deleted
      else if isUndispatchedOpenCycle row then
        let emptied := { s with reply := some (applyReplyTrigger row (emptiedByWithdrawal row)) }
        (emptied.setAttempts (PublicationAttempt.isCurrentOf row)
          (PublicationAttempt.settle .superseded)).record (.publicationCancelled .aiDraftWithdrawn)
      else if isBackAfterCancelledCycle row then
        let emptied := { s with reply := some (applyReplyTrigger row (emptiedByWithdrawal row)) }
        if row.status = .pendingApproval then
          emptied.record (.publicationCancelled .aiDraftWithdrawn)
        else emptied
      else
        s

/-- Close the attempt of a cancelled cycle as superseded, when the cycle has one. -/
def supersedeCancelledAttempt (s : Store) (cancelled : Reply) : Except ReviewError Store :=
  if 0 < cancelled.publicationAttempts then
    updateCurrentAttempt s cancelled (PublicationAttempt.settle .superseded) none
  else
    .ok s

/-- Cancel the cycle a claim may not take, when the row is still the unclaimed cycle it read. The
claim itself takes nothing. Follows
`src/src/contexts/review/infrastructure/unclaimable-publication.ts:49–106`. -/
def cancelUnclaimablePublication (s : Store) (snapshot : Reply) (cause : CancellationCause) :
    Write :=
  match cancelledPublication snapshot with
  | none => .ok none
  | some cancellation =>
      match guardedPublicationUpdate s snapshot .approved [.authorized] cancellation with
      | none => .ok none
      | some (written, cancelled) =>
          match supersedeCancelledAttempt written cancelled with
          | .error e => .error e
          | .ok settled =>
              let recorded := settled.record (.publicationCancelled cause)
              -- The withdrawal empties the row in place; it is a draft after a cancelled cycle.
              .ok (some (if cause = .aiDraftWithdrawn then withdrawAiDrafts recorded
                else recorded))

/-- What one claim leaves: nothing, a cycle it cancelled instead, or a claimed attempt. -/
inductive ClaimOutcome
  | refused
  | cancelled (s : Store)
  | claimed (s : Store) (row : Reply)
  deriving DecidableEq, Repr

/-- A claim that ends the cycle instead of taking it. -/
def cancelInsteadOfClaiming (s : Store) (snapshot : Reply) (cause : CancellationCause) :
    Except ReviewError ClaimOutcome :=
  match cancelUnclaimablePublication s snapshot cause with
  | .error e => .error e
  | .ok none => .ok .refused
  | .ok (some cancelled) => .ok (.cancelled cancelled)

/-- Take the authorized cycle for one provider write: the guarded move to `sending` and the
attempt row, whose key is unique. Follows
`src/src/contexts/review/infrastructure/reply-command-store.ts:738–776`. -/
def claimAuthorizedCycle (s : Store) (snapshot : Reply) (attempt : PublicationAttemptStart)
    (authorization : PublicationAuthorization) (now : Int) : Except ReviewError ClaimOutcome :=
  match guardedPublicationUpdate s snapshot .approved [.authorized] fun row ↦
      { row with
        publicationState := some .sending
        publicationAttempts := row.publicationAttempts + 1
        reconcileDueAt := some (now + publicationRecoveryReconcileDelayMs) } with
  | none => .ok .refused
  | some (written, claimed) =>
      if written.attempts.any (PublicationAttempt.isCurrentOf claimed) then
        .error ⟨.repoUpsertFailed, "duplicate key value violates unique constraint"⟩
      else
        .ok (.claimed { written with
          attempts :=
            { replyId := snapshot.id
              publicationCycle := snapshot.publicationCycle
              attemptNumber := claimed.publicationAttempts
              providerOperationKey := attempt.providerOperationKey
              propertyId := attempt.propertyId
              sourceEpoch := authorization.sourceEpoch
              materialReviewRevision := authorization.materialReviewRevision
              replyStateRevision := authorization.replyStateRevision
              baseObservationRevision := (s.head.map (·.observationRevision)).getD 0
              expectedReplyDigest := authorization.expectedReplyDigest
              outcome := .sending
              confirmedObservationRevision := none
              createdAt := now } :: written.attempts } claimed)

/-- The worker's claim of an authorized cycle, the last gate before a provider write. Follows
`src/src/contexts/review/infrastructure/reply-command-store.ts:660–780`. -/
def markPublicationSending (platform : Platform) (s : Store) (snapshot : Reply)
    (attempt : PublicationAttemptStart) (environment : ClaimEnvironment) :
    Except ReviewError ClaimOutcome :=
  if nextPublicationState snapshot.publicationState .claim = none then
    .ok .refused
  else if !attempt.isWellFormed then
    .error ⟨.invalidInput, "Invalid publication attempt fence"⟩
  else if s.review.propertyId ≠ attempt.propertyId then
    .ok .refused
  else if !aiTextMayBeClaimed platform s snapshot environment.bindingIsCurrent
      environment.inputsAreCurrent then
    cancelInsteadOfClaiming s snapshot .aiDraftWithdrawn
  else
    match readCurrentPublicationAuthorization platform s snapshot attempt with
    | none => .ok .refused
    | some authorization =>
        if !propertyAdmitsCycle environment.property authorization ∨
            !environment.actorAllowed then
          cancelInsteadOfClaiming s snapshot .policy
        else if s.attempts.any (·.providerOperationKey == attempt.providerOperationKey) then
          .ok .refused
        else if (s.head.map (·.observationRevision)).getD 0 ≠
            authorization.baseObservationRevision then
          .ok .refused
        else
          claimAuthorizedCycle s snapshot attempt authorization environment.now

/-- A guarded publication transition with its attempt update and fact, one transaction. Follows
`src/src/contexts/review/infrastructure/reply-command-store.ts:456–484`. -/
def publicationTransition (s : Store) (snapshot : Reply) (event : PublicationStateEvent)
    (allowedStates : List PersistedPublicationState)
    (set : PersistedPublicationState → Reply → Reply)
    (afterWrite : Store → Reply → Except ReviewError Store) (fact : Option Fact) : Write :=
  match nextPublicationState snapshot.publicationState event with
  | none => .ok none
  | some target =>
      match guardedPublicationUpdate s snapshot snapshot.status allowedStates (set target) with
      | none => .ok none
      | some (written, saved) =>
          match afterWrite written saved with
          | .error e => .error e
          | .ok settled => .ok (some (settled.recordOptional fact))

/-- Google answered the write with success; a provider read must still confirm it. Follows
`src/src/contexts/review/infrastructure/reply-command-store.ts:782–805`. -/
def markProviderOutcomePendingObservation (s : Store) (snapshot : Reply) (now : Int) : Write :=
  publicationTransition s snapshot .providerAccepted [.sending]
    (fun target row ↦
      { row with
        publicationState := some target
        reconcileDueAt := some (now + providerObservationReconcileDelayMs) })
    (fun written saved ↦
      updateCurrentAttempt written saved
        (PublicationAttempt.setOutcome .providerOutcomePending) none)
    none

/-- The attempt outcome a terminal failure of each class leaves. -/
def terminalAttemptOutcome : PublicationFailureClass → AttemptOutcome
  | .terminalRejection => .terminalRejection
  | .retryable => .retryableFailure
  | .ambiguous => .ambiguous

/-- End the cycle as failed. Follows
`src/src/contexts/review/infrastructure/reply-command-store.ts:822–853`. -/
def markPublicationTerminal (s : Store) (snapshot : Reply) (errorClass : PublicationFailureClass)
    (fact : Option Fact) : Write :=
  publicationTransition s snapshot .failTerminal [.requested, .authorized, .sending, .ambiguous]
    (fun target row ↦
      { row with
        status := .publishFailed
        publicationState := some target
        publicationLastErrorClass := some errorClass
        reconcileDueAt := none })
    (fun written saved ↦
      if saved.publicationAttempts < 1 then .ok written
      else updateCurrentAttempt written saved
        (PublicationAttempt.setOutcome (terminalAttemptOutcome errorClass)) none)
    fact

/-- Record an outcome nobody knows. A due time that is not after now throws. Follows
`src/src/contexts/review/infrastructure/reply-command-store.ts:855–883`. -/
def markPublicationAmbiguous (s : Store) (snapshot : Reply) (dueAt : Option Int) (now : Int)
    (fact : Option Fact) : Write :=
  if nextPublicationState snapshot.publicationState .failAmbiguous ≠ none ∧
      dueAt.any (fun due ↦ decide (due ≤ now)) then
    .error ⟨.invalidInput, "Reply reconciliation must be due after now"⟩
  else
    publicationTransition s snapshot .failAmbiguous [.sending, .pendingObservation]
      (fun target row ↦
        { row with
          status := .publishFailed
          publicationState := some target
          publicationLastErrorClass := some .ambiguous
          reconcileDueAt := some (dueAt.getD (now + ambiguousReconcileDelayMs)) })
      (fun written saved ↦
        updateCurrentAttempt written saved (PublicationAttempt.setOutcome .ambiguous) none)
      fact

/-- A (status, state, last error class) an uncertain-send command may start from. -/
structure UncertainSendSnapshot where
  status : ReplyStatus
  publicationState : PersistedPublicationState
  lastErrorClass : Option PublicationFailureClass
  deriving DecidableEq, Repr

/-- Only a send still in flight waits out the propagation grace. -/
def deferrableSend : List UncertainSendSnapshot := [⟨.approved, .sending, none⟩]

/-- Only automatic-check ambiguity moves along the read ladder. -/
def ladderAmbiguity : List UncertainSendSnapshot := [⟨.publishFailed, .ambiguous, none⟩]

/-- Every state whose attempt may or may not have reached Google. -/
def neverDispatchedSettleable : List UncertainSendSnapshot :=
  [⟨.approved, .sending, none⟩, ⟨.publishFailed, .ambiguous, none⟩,
    ⟨.publishFailed, .terminal, some .ambiguous⟩]

/-- Whether a reply is in a listed uncertain state. -/
def UncertainSendSnapshot.describes (allowed : UncertainSendSnapshot) (reply : Reply) : Bool :=
  allowed.status == reply.status && reply.publicationState == some allowed.publicationState &&
    (allowed.lastErrorClass == none || allowed.lastErrorClass == reply.publicationLastErrorClass)

/-- The listed uncertain state a reply is in, if any. Follows
`src/src/contexts/review/infrastructure/reply-command-store.ts:279–292`. -/
def uncertainSnapshotFor (reply : Reply) (allowed : List UncertainSendSnapshot) :
    Option UncertainSendSnapshot :=
  allowed.find? fun snapshot ↦ snapshot.describes reply

/-- Whether the row is still the uncertain attempt the caller read. Follows
`src/src/contexts/review/infrastructure/reply-command-store.ts:315–328`. -/
def uncertainAttemptWhere (row reply : Reply) (snapshot : UncertainSendSnapshot) : Bool :=
  row.id == reply.id && row.status == snapshot.status &&
    row.publicationState == some snapshot.publicationState &&
    row.publicationCycle == reply.publicationCycle &&
    row.publicationAttempts == reply.publicationAttempts &&
    row.stateRevision == reply.stateRevision &&
    (snapshot.lastErrorClass == none || row.publicationLastErrorClass == snapshot.lastErrorClass)

/-- Compare-and-set over an uncertain attempt: the rows after it and the row it returned. Follows
`src/src/contexts/review/infrastructure/reply-command-store.ts:330–341`. -/
def casUncertainAttempt (s : Store) (reply : Reply) (snapshot : UncertainSendSnapshot)
    (set : Reply → Reply) : Option (Store × Reply) :=
  match s.reply with
  | none => none
  | some row =>
      if uncertainAttemptWhere row reply snapshot then
        let saved := applyReplyTrigger row (set row)
        some ({ s with reply := some saved }, saved)
      else
        none

/-- Move only the due time of an uncertain or acknowledged send. -/
def setReconcileDueAt (dueAt : Int) (row : Reply) : Reply :=
  { row with reconcileDueAt := some dueAt }

/-- An acknowledged write waits for its read once more. Follows
`src/src/contexts/review/infrastructure/reply-command-store.ts:807–820`. -/
def deferPendingPublicationObservation (s : Store) (snapshot : Reply) (now : Int) : Write :=
  .ok ((guardedPublicationUpdate s snapshot .approved [.pendingObservation]
    (setReconcileDueAt (now + providerObservationReconcileDelayMs))).map Prod.fst)

/-- An uncertain send waits, in the states a caller lists. Follows
`src/src/contexts/review/infrastructure/reply-command-store.ts:885–913`. -/
def deferUncertain (allowed : List UncertainSendSnapshot) (s : Store) (reply : Reply)
    (dueAt now : Int) : Write :=
  match uncertainSnapshotFor reply allowed with
  | none => .ok none
  | some snapshot =>
      if dueAt ≤ now then
        .error ⟨.invalidInput, "Reply reconciliation must be due after now"⟩
      else
        .ok ((casUncertainAttempt s reply snapshot (setReconcileDueAt dueAt)).map Prod.fst)

/-- A send in flight waits inside its propagation grace. -/
def deferUncertainSend : Store → Reply → Int → Int → Write := deferUncertain deferrableSend

/-- Ambiguity moves to its next ladder read. -/
def rescheduleAmbiguousReconciliation : Store → Reply → Int → Int → Write :=
  deferUncertain ladderAmbiguity

/-- Outcomes an uncertain attempt row can still carry. -/
def uncertainAttemptOutcomes : List AttemptOutcome := [.sending, .ambiguous]

/-- Lock the reply row by its compare-and-set and then its uncertain attempt row. Follows
`src/src/contexts/review/infrastructure/reply-command-store.ts:353–383`. -/
def lockUncertainAttempt (s : Store) (reply : Reply) (snapshot : UncertainSendSnapshot) :
    Except ReviewError (Option PublicationAttempt) :=
  if s.reply.any fun row ↦ uncertainAttemptWhere row reply snapshot then
    match s.attempts.find?
        (PublicationAttempt.isCurrentIn reply (some uncertainAttemptOutcomes)) with
    | none => .error ⟨.invalidTransition, "Reply publication attempt evidence is missing"⟩
    | some attempt => .ok (some attempt)
  else
    .ok none

/-- Settle an attempt that positive evidence says never reached Google. The evidence is asked of
the locked attempt inside the transaction. Follows
`src/src/contexts/review/infrastructure/reply-command-store.ts:915–963`. -/
def settleNeverDispatchedAttempt (s : Store) (reply : Reply)
    (mayHaveDispatched : PublicationAttempt → Bool) (fact : Option Fact) : Write :=
  match uncertainSnapshotFor reply neverDispatchedSettleable with
  | none => .ok none
  | some snapshot =>
      if reply.publicationCycle < 1 ∨ reply.publicationAttempts < 1 then
        .error ⟨.invalidTransition, "Reply publication attempt evidence is missing"⟩
      else
        match lockUncertainAttempt s reply snapshot with
        | .error e => .error e
        | .ok none => .ok none
        | .ok (some attempt) =>
            if mayHaveDispatched attempt then
              .ok none
            else
              match casUncertainAttempt s reply snapshot fun row ↦
                  { row with
                    status := .publishFailed
                    publicationState := some .terminal
                    publicationLastErrorClass := some .retryable
                    reconcileDueAt := none } with
              | none => .ok none
              | some (written, saved) =>
                  match updateCurrentAttempt written saved
                      (PublicationAttempt.setOutcome .retryableFailure)
                      (some uncertainAttemptOutcomes) with
                  | .error e => .error e
                  | .ok settled =>
                      .ok (some (settled.recordOptional
                        (if snapshot.status = .publishFailed then none else fact)))

/-- A retryable failure returns the cycle to its authorization for the next attempt. Follows
`src/src/contexts/review/infrastructure/reply-command-store.ts:965–988`. -/
def markPublicationRetryQueued (s : Store) (snapshot : Reply) (now : Int) : Write :=
  match nextPublicationState snapshot.publicationState .requeue with
  | none => .ok none
  | some target =>
      match guardedPublicationUpdate s snapshot .approved [.sending] fun row ↦
          { row with
            publicationState := some target
            reconcileDueAt := some (now + publicationRecoveryReconcileDelayMs) } with
      | none => .ok none
      | some (written, saved) =>
          match updateCurrentAttempt written saved
              (PublicationAttempt.setOutcome .retryableFailure) none with
          | .error e => .error e
          | .ok settled => .ok (some settled)

/-- Cancel one open cycle for a policy or a disconnect. Follows
`src/src/contexts/review/infrastructure/reply-command-store.ts:1015–1048`. -/
def cancelPublication (s : Store) (snapshot : Reply) (cause : CancellationCause) : Write :=
  match cancelledPublication snapshot with
  | none => .ok none
  | some cancellation =>
      match guardedPublicationUpdate s snapshot snapshot.status
          [.requested, .authorized, .sending, .pendingObservation] cancellation with
      | none => .ok none
      | some (written, cancelled) =>
          match supersedeCancelledAttempt written cancelled with
          | .error e => .error e
          | .ok settled => .ok (some (settled.record (.publicationCancelled cause)))

end ReputationKey.Review
