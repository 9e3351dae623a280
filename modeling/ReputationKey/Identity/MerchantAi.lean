/-!
# Merchant AI authorization

A Property's grant records which AI capabilities its merchant consented to, under which notice, data
use policy and source epoch. Every enable, change and revoke commits a new head with the next state
version and raises the epochs of the capabilities it touches. Follows
`src/src/contexts/identity/domain/merchant-ai-authorization.ts`,
`src/src/contexts/identity/domain/merchant-ai-capability-epochs.ts`,
`src/src/shared/merchant-ai-notice-change.ts`,
`src/src/contexts/identity/infrastructure/repositories/merchant-ai-transition.ts`,
`src/src/contexts/identity/infrastructure/repositories/merchant-ai-consent-ceremony.ts` and the
function `apply_merchant_ai_transition_v1` of `src/src/shared/db/db-constructs.sql`.
-/

namespace ReputationKey.Identity

/-! ## Capabilities and notices -/

/-- What a merchant may consent to. -/
inductive MerchantAiCapability
  | reviewAnalysis
  | replyDrafting
  | propertyTrends
  deriving DecidableEq, Repr

/-- The catalogue, in its order. -/
def currentMerchantAiCapabilities : List MerchantAiCapability :=
  [.reviewAnalysis, .replyDrafting, .propertyTrends]

/-- A notice by its version and digest. -/
structure MerchantAiNoticeReference where
  noticeVersion : String
  noticeDigest : String
  deriving DecidableEq, Repr

/-- What a notice replaced and for which capabilities it was a material change. -/
structure MerchantAiNoticeChange extends MerchantAiNoticeReference where
  replaces : Option MerchantAiNoticeReference
  materiallyChanges : List MerchantAiCapability
  deriving DecidableEq, Repr

/-- The key under which the walk remembers a notice. -/
def noticeKey (notice : MerchantAiNoticeReference) : String :=
  notice.noticeVersion ++ ":" ++ notice.noticeDigest

/-- The entry of a notice in a change table. -/
def noticeChangeOf (changes : List MerchantAiNoticeChange) (notice : MerchantAiNoticeReference) :
    Option MerchantAiNoticeChange :=
  changes.find? fun entry ↦ decide (entry.toMerchantAiNoticeReference = notice)

/-- The `while` loop from a notice back to an earlier one, or none when the rounds given to it do not
suffice. -/
def noticeWalk (changes : List MerchantAiNoticeChange) (previous : MerchantAiNoticeReference) :
    Nat → MerchantAiNoticeReference → List String → List MerchantAiCapability →
      Option (List MerchantAiCapability)
  | 0, _, _, _ => none
  | rounds + 1, cursor, seen, affected =>
      if previous = cursor then
        some (currentMerchantAiCapabilities.filter fun capability ↦ decide (capability ∈ affected))
      else if noticeKey cursor ∈ seen then some currentMerchantAiCapabilities
      else
        match noticeChangeOf changes cursor with
        | none => some currentMerchantAiCapabilities
        | some change =>
            match change.replaces with
            | none => some currentMerchantAiCapabilities
            | some replaced =>
                noticeWalk changes previous rounds replaced (noticeKey cursor :: seen)
                  (affected ++ change.materiallyChanges)

/-- Every capability that a notice between two notices changed materially; all of them when the
earlier one is not known as an ancestor of the later. -/
def materiallyChangedMerchantAiCapabilities (changes : List MerchantAiNoticeChange)
    (previous next : MerchantAiNoticeReference) : List MerchantAiCapability :=
  (noticeWalk changes previous (changes.length + 1) next [] []).getD currentMerchantAiCapabilities

/-! ## Grants -/

/-- Whether a grant stands. -/
inductive MerchantAiState
  | disabled
  | enabled
  | revoked
  deriving DecidableEq, Repr

/-- The three kinds of transition. -/
inductive MerchantAiOperation
  | enable
  | change
  | revoke
  deriving DecidableEq, Repr

/-- One epoch for each capability. -/
structure MerchantAiCapabilityEpochs where
  reviewAnalysis : Nat
  replyDrafting : Nat
  propertyTrends : Nat
  deriving DecidableEq, Repr

/-- The epoch of a capability. -/
def MerchantAiCapabilityEpochs.of (epochs : MerchantAiCapabilityEpochs) :
    MerchantAiCapability → Nat
  | .reviewAnalysis => epochs.reviewAnalysis
  | .replyDrafting => epochs.replyDrafting
  | .propertyTrends => epochs.propertyTrends

/-- The notice and data use policy a grant is recorded under. -/
structure MerchantAiExecutionContract where
  notice : MerchantAiNoticeReference
  sourcePolicyId : String
  routingPolicyVersion : Nat
  redactionProfileFamily : String
  deriving DecidableEq, Repr

/-- The head of a Property's grant. -/
structure MerchantAiSnapshot extends MerchantAiExecutionContract where
  state : MerchantAiState
  authorizationLineageId : Nat
  capabilities : List MerchantAiCapability
  capabilityEpochs : MerchantAiCapabilityEpochs
  authorizedSourceEpoch : Nat
  analysisStartSequence : Nat
  stateVersion : Nat
  deriving DecidableEq, Repr

/-- Why the store refuses a command. -/
inductive MerchantAiStoreErrorCode
  | propertyInactive
  | membershipDenied
  | assignmentDenied
  | invalidTransition
  | versionConflict
  | idempotencyConflict
  | noOp
  deriving DecidableEq, Repr

/-- How a command fails: the store refuses it, or the database function raises. -/
inductive MerchantAiFailure
  | refused (code : MerchantAiStoreErrorCode) (message : String)
  | raised (exception : String)
  deriving DecidableEq, Repr

/-- What a command asks the grant to be. -/
structure MerchantAiMutationInput extends MerchantAiExecutionContract where
  idempotencyKey : String
  expectedStateVersion : Nat
  operation : MerchantAiOperation
  state : MerchantAiState
  capabilities : List MerchantAiCapability
  reasonCode : String
  deriving DecidableEq, Repr

/-- A grant already records exactly the desired one. -/
def isMerchantAiGrantCurrent (current : MerchantAiSnapshot)
    (desired : MerchantAiExecutionContract) (capabilities : List MerchantAiCapability)
    (authorizedSourceEpoch : Nat) : Bool :=
  decide (current.capabilities = capabilities) &&
    decide (current.authorizedSourceEpoch = authorizedSourceEpoch) &&
    decide (current.toMerchantAiExecutionContract = desired)

/-- How one consent ceremony brings a Property to the desired grant. -/
inductive MerchantAiConsentTransition
  | enable
  | change
  | unchanged (current : MerchantAiSnapshot)
  deriving DecidableEq, Repr

/-- An enabled grant that differs is changed, one that does not is left alone, any other is
enabled. -/
def planMerchantAiConsentTransition (current : Option MerchantAiSnapshot)
    (desired : MerchantAiExecutionContract) (capabilities : List MerchantAiCapability)
    (authorizedSourceEpoch : Nat) : MerchantAiConsentTransition :=
  match current with
  | none => .enable
  | some current =>
      if current.state ≠ .enabled then .enable
      else if isMerchantAiGrantCurrent current desired capabilities authorizedSourceEpoch then
        .unchanged current
      else .change

/-! ## Epochs -/

/-- The epoch a transition leaves one capability at. -/
def epochFor (current : MerchantAiSnapshot) (operation : MerchantAiOperation)
    (capabilities : List MerchantAiCapability) (contract : MerchantAiExecutionContract)
    (sourceRebound : Bool) (materiallyChanged : List MerchantAiCapability)
    (capability : MerchantAiCapability) : Nat :=
  let previousHas := decide (capability ∈ current.capabilities)
  let nextHas := decide (capability ∈ capabilities)
  let incrementAll := decide (operation = .enable) || decide (operation = .revoke)
  let dataUsePolicyChanged :=
    decide (current.sourcePolicyId ≠ contract.sourcePolicyId) ||
      decide (current.routingPolicyVersion ≠ contract.routingPolicyVersion) ||
      decide (current.redactionProfileFamily ≠ contract.redactionProfileFamily)
  let membershipChanged := previousHas != nextHas
  let enabledAcrossMaterialChange :=
    (dataUsePolicyChanged || decide (capability ∈ materiallyChanged)) && (previousHas || nextHas)
  let enabledAcrossSourceRebind := sourceRebound && (previousHas || nextHas)
  current.capabilityEpochs.of capability +
    if incrementAll || membershipChanged || enabledAcrossMaterialChange ||
      enabledAcrossSourceRebind then 1 else 0

/-- The epochs a transition leaves the capabilities at. -/
def nextMerchantAiCapabilityEpochs (current : Option MerchantAiSnapshot)
    (operation : MerchantAiOperation) (capabilities : List MerchantAiCapability)
    (contract : MerchantAiExecutionContract) (sourceRebound : Bool)
    (materiallyChanged : List MerchantAiCapability) : MerchantAiCapabilityEpochs :=
  match current with
  | none => ⟨1, 1, 1⟩
  | some current =>
      let epoch :=
        epochFor current operation capabilities contract sourceRebound materiallyChanged
      ⟨epoch .reviewAnalysis, epoch .replyDrafting, epoch .propertyTrends⟩

/-! ## The store -/

/-- The row of a committed transition that a replay answers with. -/
structure MerchantAiConsentEvidence where
  idempotencyKey : String
  requestHash : String
  snapshot : MerchantAiSnapshot
  deriving DecidableEq, Repr

/-- The rows of one Property. -/
structure MerchantAiStore where
  enablement : Option MerchantAiSnapshot
  evidence : List MerchantAiConsentEvidence
  deriving DecidableEq, Repr

/-- What one command reads beside these rows. -/
structure MerchantAiReads where
  /-- The epoch fenced before any row is locked: the one a revoke finds authorized, else the
  Property's. -/
  discoveredSourceEpoch : Nat
  /-- The locked row: whether it exists undeleted, whether it and its Google binding are active. -/
  propertyExists : Bool
  propertyActive : Bool
  sourceEpoch : Nat
  /-- What the membership and its authority refuse, if they do. -/
  authority : Option MerchantAiFailure
  /-- The heads and the reviews of the Property, by source epoch. -/
  analysisHead : Nat → Option Nat
  hasReviews : Nat → Bool
  newLineageId : Nat

/-- The head a transition reads: a source epoch without reviews and without a head gets a zero
head. -/
def MerchantAiReads.currentAnalysisHead (reads : MerchantAiReads) (sourceEpoch : Nat) :
    Option Nat :=
  match reads.analysisHead sourceEpoch with
  | some head => some head
  | none => if reads.hasReviews sourceEpoch then none else some 0

/-- A Property whose source or analysis head is not what the transition needs. -/
def propertyInactive (message : String) : MerchantAiFailure := .refused .propertyInactive message

/-- The epoch the database function expects one capability to be left at. -/
def expectedEpochFor (changes : List MerchantAiNoticeChange)
    (currentHead : Option MerchantAiSnapshot) (operation : MerchantAiOperation)
    (next : MerchantAiSnapshot) (capability : MerchantAiCapability) : Nat :=
  match currentHead with
  | none => 1
  | some head =>
      match operation with
      | .enable | .revoke => head.capabilityEpochs.of capability + 1
      | .change =>
          let headHas := decide (capability ∈ head.capabilities)
          let nextHas := decide (capability ∈ next.capabilities)
          let dataUsePolicyChanged :=
            decide (head.sourcePolicyId ≠ next.sourcePolicyId) ||
              decide (head.routingPolicyVersion ≠ next.routingPolicyVersion) ||
              decide (head.redactionProfileFamily ≠ next.redactionProfileFamily)
          let materiallyChanged :=
            materiallyChangedMerchantAiCapabilities changes head.notice next.notice
          head.capabilityEpochs.of capability +
            if (headHas != nextHas) ||
              ((decide (head.authorizedSourceEpoch ≠ next.authorizedSourceEpoch) ||
                  dataUsePolicyChanged || decide (capability ∈ materiallyChanged)) &&
                (headHas || nextHas)) then 1 else 0

/-- Whether the database function admits a transition of a head. -/
def admitsTransition (currentHead : Option MerchantAiSnapshot) (operation : MerchantAiOperation)
    (next : MerchantAiSnapshot) : Bool :=
  match operation, currentHead with
  | .enable, none => decide (next.state = .enabled)
  | .enable, some head =>
      decide (next.state = .enabled) && decide (head.state ≠ .enabled) &&
        decide (head.authorizationLineageId = next.authorizationLineageId)
  | .change, none => false
  | .change, some head =>
      decide (next.state = .enabled) && decide (head.state = .enabled) &&
        decide (head.authorizationLineageId = next.authorizationLineageId)
  | .revoke, none => false
  | .revoke, some head =>
      decide (next.state = .revoked) && decide (head.state = .enabled) &&
        decide (next.capabilities = []) &&
        decide (head.authorizedSourceEpoch = next.authorizedSourceEpoch) &&
        decide (head.analysisStartSequence = next.analysisStartSequence) &&
        decide (head.authorizationLineageId = next.authorizationLineageId)

/-- Whether the database function admits the analysis start of an enable or a change. -/
def admitsAnalysisStart (currentHead : Option MerchantAiSnapshot) (reviewHeadSequence : Option Nat)
    (next : MerchantAiSnapshot) : Bool :=
  if .reviewAnalysis ∈ next.capabilities ∧
      (currentHead.elim 0 fun head ↦ head.capabilityEpochs.reviewAnalysis) <
        next.capabilityEpochs.reviewAnalysis then
    decide (reviewHeadSequence = some next.analysisStartSequence)
  else
    decide (next.analysisStartSequence =
      currentHead.elim 0 MerchantAiSnapshot.analysisStartSequence)

/-- The rows `apply_merchant_ai_transition_v1` leaves, or the exception it raises. -/
def applyMerchantAiTransition (changes : List MerchantAiNoticeChange) (store : MerchantAiStore)
    (reads : MerchantAiReads) (operation : MerchantAiOperation) (expectedStateVersion : Nat)
    (evidence : MerchantAiConsentEvidence) : Except String MerchantAiStore :=
  let next := evidence.snapshot
  let head := store.enablement
  match store.evidence.find? fun row ↦ decide (row.idempotencyKey = evidence.idempotencyKey) with
  | some replay =>
      if replay.requestHash ≠ evidence.requestHash then .error "merchant_ai_idempotency_conflict"
      else .ok store
  | none =>
      if reads.propertyExists = false ∨ (operation ≠ .revoke ∧
          (reads.sourceEpoch ≠ next.authorizedSourceEpoch ∨ reads.propertyActive = false)) then
        .error "merchant_ai_property_inactive"
      else if head.elim 0 MerchantAiSnapshot.stateVersion ≠ expectedStateVersion then
        .error "merchant_ai_version_conflict"
      else if next.stateVersion ≠ expectedStateVersion + 1 ∨
          admitsTransition head operation next = false then
        .error "merchant_ai_invalid_state_transition"
      else if operation ≠ .revoke ∧
          reads.currentAnalysisHead next.authorizedSourceEpoch = none then
        .error "merchant_ai_review_head_unavailable"
      else if operation ≠ .revoke ∧
          admitsAnalysisStart head (reads.currentAnalysisHead next.authorizedSourceEpoch) next =
            false then
        .error "merchant_ai_invalid_analysis_sequence"
      else if ∃ capability ∈ currentMerchantAiCapabilities, next.capabilityEpochs.of capability ≠
          expectedEpochFor changes head operation next capability then
        .error "merchant_ai_invalid_capability_epoch"
      else if operation = .change ∧
          (head.any fun head ↦ isMerchantAiGrantCurrent head next.toMerchantAiExecutionContract
            next.capabilities next.authorizedSourceEpoch) = true then
        .error "merchant_ai_no_op"
      else .ok ⟨some next, evidence :: store.evidence⟩

/-- The epochs a command leaves. -/
def committedEpochs (changes : List MerchantAiNoticeChange) (current : Option MerchantAiSnapshot)
    (input : MerchantAiMutationInput) (authorizedSourceEpoch : Nat) : MerchantAiCapabilityEpochs :=
  let sourceRebound := current.any fun current ↦
    decide (current.authorizedSourceEpoch ≠ authorizedSourceEpoch)
  let materiallyChanged := current.elim [] fun current ↦
    materiallyChangedMerchantAiCapabilities changes current.notice input.notice
  nextMerchantAiCapabilityEpochs current input.operation input.capabilities
    input.toMerchantAiExecutionContract sourceRebound materiallyChanged

/-- Where the analysis starts: at the head just read when Review analysis gets a new epoch, else
where it started. -/
def committedAnalysisStart (current : Option MerchantAiSnapshot)
    (capabilities : List MerchantAiCapability) (epochs : MerchantAiCapabilityEpochs)
    (currentAnalysisHeadSequence : Option Nat) : Option Nat :=
  let previousReviewAnalysisEpoch :=
    current.elim 0 fun current ↦ current.capabilityEpochs.reviewAnalysis
  if .reviewAnalysis ∈ capabilities ∧ previousReviewAnalysisEpoch < epochs.reviewAnalysis then
    currentAnalysisHeadSequence
  else some (current.elim 0 MerchantAiSnapshot.analysisStartSequence)

/-- The head a command leaves. -/
def committedSnapshot (changes : List MerchantAiNoticeChange) (current : Option MerchantAiSnapshot)
    (input : MerchantAiMutationInput) (authorizedSourceEpoch newLineageId analysisStartSequence :
      Nat) : MerchantAiSnapshot :=
  { toMerchantAiExecutionContract := input.toMerchantAiExecutionContract
    state := input.state
    authorizationLineageId := current.elim newLineageId MerchantAiSnapshot.authorizationLineageId
    capabilities := input.capabilities
    capabilityEpochs := committedEpochs changes current input authorizedSourceEpoch
    authorizedSourceEpoch := authorizedSourceEpoch
    analysisStartSequence := analysisStartSequence
    stateVersion := current.elim 0 MerchantAiSnapshot.stateVersion + 1 }

/-- Writes one validated transition. A revoke reads no analysis head. -/
def commitMerchantAiTransition (changes : List MerchantAiNoticeChange) (store : MerchantAiStore)
    (reads : MerchantAiReads) (input : MerchantAiMutationInput) (authorizedSourceEpoch : Nat)
    (requestHash : String) : Except MerchantAiFailure MerchantAiStore :=
  let current := store.enablement
  let currentAnalysisHeadSequence :=
    if input.operation = .revoke then none else reads.currentAnalysisHead authorizedSourceEpoch
  if input.operation ≠ .revoke ∧ currentAnalysisHeadSequence = none then
    .error (propertyInactive "Current Review analysis source head is unavailable")
  else
    match committedAnalysisStart current input.capabilities
        (committedEpochs changes current input authorizedSourceEpoch)
        currentAnalysisHeadSequence with
    | none => .error (propertyInactive "Current Review analysis source head is unavailable")
    | some analysisStartSequence =>
        (applyMerchantAiTransition changes store reads input.operation input.expectedStateVersion
          ⟨input.idempotencyKey, requestHash, committedSnapshot changes current input
            authorizedSourceEpoch reads.newLineageId analysisStartSequence⟩).mapError .raised

/-- Which states an operation may start from. -/
def allowsTransition (operation : MerchantAiOperation) (currentState : Option MerchantAiState) :
    Bool :=
  match operation, currentState with
  | .enable, none => true
  | .enable, some state => decide (state ≠ .enabled)
  | .change, some state => decide (state = .enabled)
  | .revoke, some state => decide (state = .enabled)
  | _, none => false

/-- The reason of the unattended renewal of standing grants. -/
def standingRenewalReason : String := "standing_renewal"

/-- The Property row, re-checked under its lock. -/
def lockTransitionProperty (reads : MerchantAiReads) (operation : MerchantAiOperation) :
    Except MerchantAiFailure Nat :=
  if reads.propertyExists = false ∨ (operation ≠ .revoke ∧ reads.propertyActive = false) then
    .error (propertyInactive (if operation = .revoke then "Property must exist"
      else "Property and Google source must be active"))
  else if operation ≠ .revoke ∧ reads.sourceEpoch ≠ reads.discoveredSourceEpoch then
    .error (propertyInactive "Property source changed during Merchant AI authorization")
  else .ok reads.sourceEpoch

/-- One enable, change or revoke of one Property. A replay leaves the rows as they are; an unattended
renewal refuses it. -/
def runMerchantAiMutation (changes : List MerchantAiNoticeChange) (store : MerchantAiStore)
    (reads : MerchantAiReads) (input : MerchantAiMutationInput) (requestHash : String)
    (replayIsNoOp : Bool) : Except MerchantAiFailure MerchantAiStore :=
  match store.evidence.find? fun row ↦ decide (row.idempotencyKey = input.idempotencyKey) with
  | some replay =>
      if replay.requestHash ≠ requestHash then
        .error (.refused .idempotencyConflict
          "Idempotency key was already used for a different command")
      else if replayIsNoOp then .error (.refused .noOp "Already renewed")
      else .ok store
  | none =>
      match lockTransitionProperty reads input.operation, reads.authority with
      | .error error, _ => .error error
      | .ok _, some refusal => .error refusal
      | .ok lockedPropertySourceEpoch, none =>
          let current := store.enablement
          if allowsTransition input.operation (current.map MerchantAiSnapshot.state) = false then
            .error (.refused .invalidTransition ("Merchant AI state does not allow " ++
              (match input.operation with
                | .enable => "enable" | .change => "change" | .revoke => "revoke")))
          else if input.expectedStateVersion ≠
              current.elim 0 MerchantAiSnapshot.stateVersion then
            .error (.refused .versionConflict
              "Merchant AI state changed; reload before retrying")
          else if input.reasonCode = standingRenewalReason ∧
              current.map MerchantAiSnapshot.authorizedSourceEpoch ≠
                some lockedPropertySourceEpoch then
            .error (propertyInactive "Standing renewal cannot change the source")
          else if input.state ≠ (if input.operation = .revoke then .revoked else .enabled) then
            .error (.refused .invalidTransition
              "Merchant AI command state does not match its operation")
          else
            let authorizedSourceEpoch :=
              if input.operation = .revoke then
                current.elim lockedPropertySourceEpoch MerchantAiSnapshot.authorizedSourceEpoch
              else lockedPropertySourceEpoch
            if authorizedSourceEpoch ≠ reads.discoveredSourceEpoch then
              .error (propertyInactive
                "Property source changed during Merchant AI authorization")
            else if input.operation = .change ∧
                (current.any fun current ↦ isMerchantAiGrantCurrent current
                  input.toMerchantAiExecutionContract input.capabilities
                  authorizedSourceEpoch) = true then
              .error (.refused .noOp "Merchant AI settings did not change")
            else
              commitMerchantAiTransition changes store reads input authorizedSourceEpoch requestHash

/-- One Property of a consent ceremony: it plans from the locked head, and never revokes. -/
def consentForProperty (changes : List MerchantAiNoticeChange) (store : MerchantAiStore)
    (reads : MerchantAiReads) (desired : MerchantAiExecutionContract)
    (capabilities : List MerchantAiCapability) (idempotencyKey reasonCode requestHash : String) :
    Except MerchantAiFailure MerchantAiStore :=
  match lockTransitionProperty reads .enable, reads.authority with
  | .error error, _ => .error error
  | .ok _, some refusal => .error refusal
  | .ok lockedPropertySourceEpoch, none =>
      let current := store.enablement
      let commit (operation : MerchantAiOperation) :=
        commitMerchantAiTransition changes store reads
          { toMerchantAiExecutionContract := desired
            idempotencyKey := idempotencyKey
            expectedStateVersion := current.elim 0 MerchantAiSnapshot.stateVersion
            operation := operation
            state := .enabled
            capabilities := capabilities
            reasonCode := reasonCode }
          lockedPropertySourceEpoch requestHash
      match planMerchantAiConsentTransition current desired capabilities
          lockedPropertySourceEpoch with
      | .unchanged _ => .ok store
      | .enable => commit .enable
      | .change => commit .change

end ReputationKey.Identity
