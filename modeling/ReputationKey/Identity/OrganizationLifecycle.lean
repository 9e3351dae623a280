import ReputationKey.Base.KeyedRecord
import ReputationKey.Base.Refusal
import ReputationKey.Shared.Uuid
import Mathlib.Data.Int.Notation

/-!
# The lifecycle authority of an Organization

One row an Organization says whether its tenant data is live, on its way out, or gone. Four commands
change it, each in one transaction that writes the row, a durable fact and, for three of them, a
receipt that answers a retry. Instants are epoch milliseconds. Follows
`src/src/contexts/identity/infrastructure/organization-lifecycle-command-store.ts`,
`src/src/contexts/identity/domain/organization-lifecycle.ts`,
`src/src/shared/db/lifecycle/organization-lifecycle-receipt-store.ts`,
`src/src/shared/db/schema/organization-lifecycle.schema.ts` and the function
`guard_organization_lifecycle_revision_v1` of `src/src/shared/db/db-constructs.sql`.
-/

namespace ReputationKey.Identity

open Base Shared

/-! ## The row -/

inductive OrganizationLifecycleState
  | active
  | closureRequested
  | closing
  | purgePending
  | purging
  | closed
  deriving DecidableEq, Repr

/-- What a command answers and a receipt keeps. -/
structure OrganizationLifecycleStatus where
  organizationId : String
  state : OrganizationLifecycleState
  revision : ℕ
  closureLineageId : Option String
  closureRequestedAt : Option ℤ
  recoverableUntil : Option ℤ
  irreversibleAt : Option ℤ
  closedAt : Option ℤ
  reactivationRequired : Bool
  lastTransitionAt : ℤ
  lastActorId : String
  lastReasonCode : String
  lastSupportEvidenceRef : String
  deriving DecidableEq, Repr

/-- The row, with the request evidence that the status leaves out. -/
structure Authority extends OrganizationLifecycleStatus where
  requestedBy : Option String
  requestReasonCode : Option String
  requestSupportEvidenceRef : Option String
  deriving DecidableEq, Repr

def authorityStatus (row : Authority) : OrganizationLifecycleStatus :=
  row.toOrganizationLifecycleStatus

/-- The row that comes with a new Organization. -/
def provisionedAuthority (organizationId : String) (createdAt : ℤ) : Authority where
  organizationId := organizationId
  state := .active
  revision := 0
  closureLineageId := none
  closureRequestedAt := none
  recoverableUntil := none
  irreversibleAt := none
  closedAt := none
  reactivationRequired := false
  lastTransitionAt := createdAt
  lastActorId := "system:organization"
  lastReasonCode := "provisioned"
  lastSupportEvidenceRef := "organization:create"
  requestedBy := none
  requestReasonCode := none
  requestSupportEvidenceRef := none

/-! ## Errors -/

inductive LifecycleErrorCode
  | forbidden
  | alreadyExists
  | organizationConflict
  | orgSetupFailed
  deriving DecidableEq, Repr

/-- The interruption points of a transaction. -/
inductive FaultStage
  | afterStateAndFence
  | afterFact
  deriving DecidableEq, Repr

/-- Why a command is refused. Each error leaves the transaction without effect. -/
inductive LifecycleError
  | identity (code : LifecycleErrorCode) (message : String)
  | invalid (message : String)
  | database (message : String)
  | interrupted (stage : FaultStage)
  deriving DecidableEq, Repr

/-! ## Rules of the domain -/

def organizationClosureRequestReasonCodes : List String :=
  ["account_admin_request", "contract_ended", "duplicate_workspace", "privacy_request",
    "test_workspace"]

def organizationClosureCancelReasonCodes : List String :=
  ["closure_cancelled", "request_created_in_error", "retention_needed"]

def organizationReactivationReasonCode : String := "explicit_reactivation"

def canCancelOrganizationClosure (state : OrganizationLifecycleState) (recoverableUntil : Option ℤ)
    (now : ℤ) : Bool :=
  (decide (state = .closureRequested) || decide (state = .closing)) &&
    recoverableUntil.any fun deadline ↦ decide (now < deadline)

def canReactivateOrganization (status : OrganizationLifecycleStatus) : Bool :=
  decide (status.state = .active) && status.reactivationRequired

def organizationLifecycleTransitions :
    OrganizationLifecycleState → List OrganizationLifecycleState
  | .active => [.closureRequested]
  | .closureRequested => [.active, .closing]
  | .closing => [.active, .purgePending]
  | .purgePending => [.active, .purging]
  | .purging => [.closed]
  | .closed => []

def canTransitionOrganizationLifecycle (source target : OrganizationLifecycleState) : Bool :=
  decide (target ∈ organizationLifecycleTransitions source)

/-- The reasons of an edge; none for a pair of states that is no edge. -/
def organizationLifecycleTransitionReasons :
    OrganizationLifecycleState → OrganizationLifecycleState → List String
  | .active, .closureRequested => organizationClosureRequestReasonCodes
  | .closureRequested, .active => organizationClosureCancelReasonCodes
  | .closureRequested, .closing => ["closing_prepared"]
  | .closing, .active => organizationClosureCancelReasonCodes
  | .closing, .purgePending => ["recovery_window_elapsed", "recovery_window_waived"]
  | .purgePending, .active => ["purge_cancelled_before_irreversible"]
  | .purgePending, .purging => ["irreversible_purge_authorized"]
  | .purging, .closed => ["context_purge_complete"]
  | _, _ => []

/-- The text of a state in the source. -/
def OrganizationLifecycleState.text : OrganizationLifecycleState → String
  | .active => "active"
  | .closureRequested => "closure_requested"
  | .closing => "closing"
  | .purgePending => "purge_pending"
  | .purging => "purging"
  | .closed => "closed"

def assertOrganizationLifecycleTransition (source target : OrganizationLifecycleState) :
    Except LifecycleError Unit :=
  if canTransitionOrganizationLifecycle source target = false then
    .error (.invalid
      ("Invalid Organization lifecycle transition: " ++ source.text ++ " -> " ++ target.text))
  else .ok ()

def assertOrganizationLifecycleTransitionReason (source target : OrganizationLifecycleState)
    (reasonCode : String) : Except LifecycleError Unit :=
  assertOrganizationLifecycleTransition source target >>= fun _ ↦
    if reasonCode ∉ organizationLifecycleTransitionReasons source target then
      .error (.invalid ("Organization lifecycle transition reason does not match " ++ source.text ++
        " -> " ++ target.text))
    else .ok ()

/-- A letter or digit, then letters, digits, colons, underscores, dots, slashes and hyphens. -/
def isContentFreeEvidenceRef (text : String) : Bool :=
  match text.toList with
  | [] => false
  | first :: rest =>
      first.isAlphanum &&
        rest.all fun c ↦ c.isAlphanum || [':', '_', '.', '/', '-'].contains c

def validateLifecycleEvidenceRef (value : String) : Except LifecycleError String :=
  if 200 < value.length then
    .error (.invalid "supportEvidenceRef must be at most 200 characters")
  else if isContentFreeEvidenceRef value = false then
    .error (.invalid "supportEvidenceRef must be a content-free identifier")
  else .ok value

/-! ## Rules of the table -/

/-- A small letter, then small letters, digits and underscores, 64 characters at most. -/
def isReasonCode (text : String) : Bool :=
  match text.toList with
  | [] => false
  | first :: rest =>
      first.isLower && decide (rest.length ≤ 63) &&
        rest.all fun c ↦ c.isLower || c.isDigit || decide (c = '_')

/-- The request evidence is there, and its deadline is after the request. -/
def Authority.hasRequestEvidence (row : Authority) : Bool :=
  row.closureLineageId.isSome &&
    (match row.closureRequestedAt, row.recoverableUntil with
      | some requestedAt, some deadline => decide (requestedAt < deadline)
      | _, _ => false) &&
    row.requestedBy.isSome && row.requestReasonCode.isSome && row.requestSupportEvidenceRef.isSome

/-- There is no request evidence. -/
def Authority.hasNoRequestEvidence (row : Authority) : Bool :=
  row.closureLineageId.isNone && row.closureRequestedAt.isNone && row.recoverableUntil.isNone &&
    row.requestedBy.isNone && row.requestReasonCode.isNone && row.requestSupportEvidenceRef.isNone

/-- The check `organization_lifecycle_state_shape`. -/
def Authority.stateShape (row : Authority) : Bool :=
  match row.state with
  | .active =>
      row.irreversibleAt.isNone && row.closedAt.isNone &&
        (row.hasNoRequestEvidence && !row.reactivationRequired ||
          row.hasRequestEvidence && row.reactivationRequired)
  | .closureRequested | .closing | .purgePending =>
      row.hasRequestEvidence && row.irreversibleAt.isNone && row.closedAt.isNone &&
        row.reactivationRequired
  | .purging =>
      row.hasRequestEvidence && row.irreversibleAt.isSome && row.closedAt.isNone &&
        row.reactivationRequired
  | .closed =>
      row.hasRequestEvidence && row.irreversibleAt.isSome && row.closedAt.isSome &&
        row.reactivationRequired

/-- An evidence reference that fits its column. -/
def isStoredEvidenceRef (text : String) : Bool :=
  isContentFreeEvidenceRef text && decide (text.length ≤ 200)

/-- The check or column limit a row breaks. -/
def Authority.violation (row : Authority) : Option String :=
  if row.stateShape = false then some "organization_lifecycle_state_shape"
  else if (isStoredEvidenceRef row.lastSupportEvidenceRef &&
      row.requestSupportEvidenceRef.all isStoredEvidenceRef) = false then
    some "organization_lifecycle_evidence_ref_valid"
  else if isReasonCode row.lastReasonCode = false then
    some "organization_lifecycle_reason_code_valid"
  else if (row.requestReasonCode.all fun code ↦
      decide (code ∈ organizationClosureRequestReasonCodes)) = false then
    some "organization_lifecycle_request_reason_valid"
  else if 255 < row.lastActorId.length then some "value too long for type character varying(255)"
  else if 2147483647 < row.revision then some "integer out of range"
  else none

/-- A trigger that may raise an exception before an update, from the old and the new row. -/
abbrev RowGuard := Authority → Authority → Option String

/-- The trigger `guard_organization_lifecycle_revision_v1`. -/
def guardOrganizationLifecycleRevision : RowGuard := fun old new ↦
  if new.organizationId ≠ old.organizationId then
    some "organization lifecycle authority cannot change tenant"
  else if new.revision ≠ old.revision + 1 then
    some "organization lifecycle revision must advance by exactly one"
  else if canTransitionOrganizationLifecycle old.state new.state = false then
    some ("invalid organization lifecycle state transition: " ++ old.state.text ++ " -> " ++
      new.state.text)
  else if new.lastReasonCode ∉ organizationLifecycleTransitionReasons old.state new.state then
    some "organization lifecycle reason does not match state transition"
  else if old.state = .active ∧ old.reactivationRequired = true then
    some "organization lifecycle requires explicit reactivation before a new closure"
  else if old.state ≠ .active ∧
      (new.closureLineageId ≠ old.closureLineageId ∨
        new.closureRequestedAt ≠ old.closureRequestedAt ∨
        new.recoverableUntil ≠ old.recoverableUntil ∨ new.requestedBy ≠ old.requestedBy ∨
        new.requestReasonCode ≠ old.requestReasonCode ∨
        new.requestSupportEvidenceRef ≠ old.requestSupportEvidenceRef) then
    some "organization lifecycle closure request evidence is immutable"
  else if old.irreversibleAt.isSome ∧ new.irreversibleAt ≠ old.irreversibleAt then
    some "organization lifecycle irreversible boundary is immutable"
  else if new.lastTransitionAt < old.lastTransitionAt then
    some "organization lifecycle transition time cannot move backwards"
  else none

/-! ## The store -/

inductive ReceiptOperation
  | request
  | cancel
  | reactivate
  deriving DecidableEq, Repr

/-- A command's receipt. -/
structure LifecycleReceipt where
  operation : ReceiptOperation
  status : OrganizationLifecycleStatus
  deriving DecidableEq, Repr

/-- The durable fact `identity.organization_lifecycle.changed`. -/
structure LifecycleFact where
  organizationId : String
  closureLineageId : String
  state : OrganizationLifecycleState
  revision : ℕ
  reactivationRequired : Bool
  recoverableUntil : ℤ
  occurredAt : ℤ
  deriving DecidableEq, Repr

/-- The rows by Organization, the receipts by operation, and the facts, the newest first. -/
structure LifecycleStore where
  authorities : KeyedRecord String Authority
  receipts : KeyedRecord String LifecycleReceipt
  facts : List LifecycleFact

structure RequestOrganizationClosureCommand where
  operationId : String
  organizationId : String
  actorUserId : String
  reasonCode : String
  supportEvidenceRef : String
  now : ℤ
  recoverableUntil : ℤ
  deriving DecidableEq, Repr

structure CancelOrganizationClosureCommand where
  operationId : String
  organizationId : String
  actorUserId : String
  reasonCode : String
  supportEvidenceRef : String
  now : ℤ
  deriving DecidableEq, Repr

structure ReactivateOrganizationCommand where
  operationId : String
  organizationId : String
  actorUserId : String
  expectedRevision : ℤ
  closureLineageId : String
  supportEvidenceRef : String
  now : ℤ
  deriving DecidableEq, Repr

structure TransitionOrganizationLifecycleCommand where
  organizationId : String
  closureLineageId : String
  expectedRevision : ℤ
  source : OrganizationLifecycleState
  target : OrganizationLifecycleState
  actorUserId : String
  reasonCode : String
  supportEvidenceRef : String
  now : ℤ
  deriving DecidableEq, Repr

/-- What a transaction reads and meets outside the store: the trigger, the actor's membership role,
and where it is interrupted. -/
structure LifecycleContext where
  guard : RowGuard
  role : Option String
  interrupt : Option FaultStage

/-! ## Parts of a transaction -/

def requireCurrentAccountAdmin (role : Option String) : Except LifecycleError Unit :=
  if role = some "owner" then .ok ()
  else .error (.identity .forbidden
    "A current AccountAdmin is required for Organization lifecycle changes")

def readAuthorityForUpdate (store : LifecycleStore) (organizationId : String) :
    Except LifecycleError Authority :=
  match store.authorities organizationId with
  | some row => .ok row
  | none => .error (.identity .orgSetupFailed "Organization lifecycle authority is unavailable")

/-- The answer to an operation that has its receipt; none for a new one. -/
def replayReceipt (store : LifecycleStore) (operationId organizationId : String)
    (operation : ReceiptOperation) (actorUserId reasonCode supportEvidenceRef : String) :
    Except LifecycleError (Option OrganizationLifecycleStatus) :=
  match store.receipts operationId with
  | none => .ok none
  | some receipt =>
      if receipt.status.organizationId ≠ organizationId ∨ receipt.operation ≠ operation ∨
          receipt.status.lastActorId ≠ actorUserId ∨ receipt.status.lastReasonCode ≠ reasonCode ∨
          receipt.status.lastSupportEvidenceRef ≠ supportEvidenceRef then
        .error (.identity .organizationConflict
          "Organization lifecycle operation identifier is already bound")
      else .ok (some receipt.status)

/-- Update the row: the trigger first, then the checks. -/
def updateAuthority (guard : RowGuard) (old new : Authority) : Except LifecycleError Authority :=
  match guard old new with
  | some message => .error (.database message)
  | none =>
      match new.violation with
      | some message => .error (.database message)
      | none => .ok new

/-- `identityOrganizationLifecycleChanged`, with the assertions it makes. -/
def identityOrganizationLifecycleChanged (status : OrganizationLifecycleStatus)
    (closureLineageId : Option String) (recoverableUntil : Option ℤ) (occurredAt : ℤ) :
    Except LifecycleError LifecycleFact :=
  match recoverableUntil, closureLineageId with
  | none, _ => .error (.invalid "recoverableUntil must be a valid Date")
  | some _, none => .error (.invalid "closureLineageId must be UUID")
  | some deadline, some lineage =>
      if status.organizationId = "" then .error (.invalid "organizationId required")
      else if isUuidAnyCase lineage = false then .error (.invalid "closureLineageId must be UUID")
      else if status.revision = 0 ∨ 9007199254740991 < status.revision then
        .error (.invalid "revision must be a positive safe integer")
      else if status.reactivationRequired = false ∧ status.state ≠ .active then
        .error (.invalid "lifecycle transition must require reactivation")
      else .ok ⟨status.organizationId, lineage, status.state, status.revision,
        status.reactivationRequired, deadline, occurredAt⟩

def interruptAt (interrupt : Option FaultStage) (stage : FaultStage) : Except LifecycleError Unit :=
  if interrupt = some stage then .error (.interrupted stage) else .ok ()

/-- Insert a receipt; its `kind` takes 160 characters. -/
def writeReceipt (receipts : KeyedRecord String LifecycleReceipt) :
    Option (String × ReceiptOperation) → OrganizationLifecycleStatus →
      Except LifecycleError (KeyedRecord String LifecycleReceipt)
  | none, _ => .ok receipts
  | some (operationId, operation), status =>
      if 129 < operationId.length then
        .error (.database "organization_lifecycle_events_identity_valid")
      else .ok (receipts.set operationId ⟨operation, status⟩)

/-- What the four commands do alike: the update, the fact, and the receipt of those that have one,
with the two interruption points. -/
def commitChange (context : LifecycleContext) (store : LifecycleStore) (current new : Authority)
    (closureLineageId : Option String) (recoverableUntil : Option ℤ) (occurredAt : ℤ)
    (receipt : Option (String × ReceiptOperation)) :
    Except LifecycleError (OrganizationLifecycleStatus × LifecycleStore) := do
  let row ← updateAuthority context.guard current new
  interruptAt context.interrupt .afterStateAndFence
  let fact ← identityOrganizationLifecycleChanged (authorityStatus row) closureLineageId
    recoverableUntil occurredAt
  let receipts ← writeReceipt store.receipts receipt (authorityStatus row)
  interruptAt context.interrupt .afterFact
  return (authorityStatus row,
    { authorities := store.authorities.set row.organizationId row
      receipts := receipts
      facts := fact :: store.facts })

/-! ## The commands -/

/-- The row a closure request writes. The column of the lineage keeps a UUID in lower case. -/
def RequestOrganizationClosureCommand.row (command : RequestOrganizationClosureCommand)
    (current : Authority) : Authority :=
  { current with
    state := .closureRequested
    revision := current.revision + 1
    closureLineageId := some command.operationId.toLower
    closureRequestedAt := some command.now
    recoverableUntil := some command.recoverableUntil
    irreversibleAt := none
    closedAt := none
    reactivationRequired := true
    requestedBy := some command.actorUserId
    requestReasonCode := some command.reasonCode
    requestSupportEvidenceRef := some command.supportEvidenceRef
    lastTransitionAt := command.now
    lastActorId := command.actorUserId
    lastReasonCode := command.reasonCode
    lastSupportEvidenceRef := command.supportEvidenceRef }

def requestClosure (context : LifecycleContext) (store : LifecycleStore)
    (command : RequestOrganizationClosureCommand) :
    Except LifecycleError (OrganizationLifecycleStatus × LifecycleStore) := do
  requireCurrentAccountAdmin context.role
  match ← replayReceipt store command.operationId command.organizationId .request
      command.actorUserId command.reasonCode command.supportEvidenceRef with
  | some replay => return (replay, store)
  | none =>
      let current ← readAuthorityForUpdate store command.organizationId
      if current.state ≠ .active ∨ current.reactivationRequired = true then
        .error (.identity .alreadyExists
          "Organization is not fully active for a new closure request")
      else
        commitChange context store current (command.row current) (some command.operationId)
          (some command.recoverableUntil) command.now (some (command.operationId, .request))

/-- The row a cancellation writes. The lineage and the request evidence stay. -/
def CancelOrganizationClosureCommand.row (command : CancelOrganizationClosureCommand)
    (current : Authority) : Authority :=
  { current with
    state := .active
    revision := current.revision + 1
    reactivationRequired := true
    lastTransitionAt := command.now
    lastActorId := command.actorUserId
    lastReasonCode := command.reasonCode
    lastSupportEvidenceRef := command.supportEvidenceRef }

def cancelClosure (context : LifecycleContext) (store : LifecycleStore)
    (command : CancelOrganizationClosureCommand) :
    Except LifecycleError (OrganizationLifecycleStatus × LifecycleStore) := do
  requireCurrentAccountAdmin context.role
  match ← replayReceipt store command.operationId command.organizationId .cancel
      command.actorUserId command.reasonCode command.supportEvidenceRef with
  | some replay => return (replay, store)
  | none =>
      let current ← readAuthorityForUpdate store command.organizationId
      if canCancelOrganizationClosure current.state current.recoverableUntil command.now = false then
        .error (.identity .forbidden "Organization closure is no longer recoverable")
      else
        commitChange context store current (command.row current) current.closureLineageId
          current.recoverableUntil command.now (some (command.operationId, .cancel))

/-- The row a reactivation writes: the whole lineage clears with the fence. -/
def ReactivateOrganizationCommand.row (command : ReactivateOrganizationCommand)
    (current : Authority) : Authority :=
  { current with
    state := .active
    revision := current.revision + 1
    closureLineageId := none
    closureRequestedAt := none
    recoverableUntil := none
    irreversibleAt := none
    closedAt := none
    reactivationRequired := false
    requestedBy := none
    requestReasonCode := none
    requestSupportEvidenceRef := none
    lastTransitionAt := command.now
    lastActorId := command.actorUserId
    lastReasonCode := organizationReactivationReasonCode
    lastSupportEvidenceRef := command.supportEvidenceRef }

def reactivate (context : LifecycleContext) (store : LifecycleStore)
    (command : ReactivateOrganizationCommand) :
    Except LifecycleError (OrganizationLifecycleStatus × LifecycleStore) := do
  requireCurrentAccountAdmin context.role
  match ← replayReceipt store command.operationId command.organizationId .reactivate
      command.actorUserId organizationReactivationReasonCode command.supportEvidenceRef with
  | some replay => return (replay, store)
  | none =>
      let current ← readAuthorityForUpdate store command.organizationId
      if canReactivateOrganization (authorityStatus current) = false then
        .error (.identity .forbidden
          "Only an active Organization awaiting explicit reactivation can be reactivated")
      else if (current.revision : ℤ) ≠ command.expectedRevision ∨
          current.closureLineageId ≠ some command.closureLineageId then
        .error (.identity .organizationConflict "Organization lifecycle authority changed")
      else
        let supportEvidenceRef ← validateLifecycleEvidenceRef command.supportEvidenceRef
        commitChange context store current
          ({ command with supportEvidenceRef := supportEvidenceRef }.row current)
          (some command.closureLineageId) current.recoverableUntil command.now
          (some (command.operationId, .reactivate))

/-- The row a transition writes. -/
def TransitionOrganizationLifecycleCommand.row (command : TransitionOrganizationLifecycleCommand)
    (current : Authority) : Authority :=
  { current with
    state := command.target
    revision := current.revision + 1
    irreversibleAt := if command.target = .purging then some command.now else current.irreversibleAt
    closedAt := if command.target = .closed then some command.now else current.closedAt
    reactivationRequired := true
    lastTransitionAt := command.now
    lastActorId := command.actorUserId
    lastReasonCode := command.reasonCode
    lastSupportEvidenceRef := command.supportEvidenceRef }

/-- The row is the one this transition left. -/
def TransitionOrganizationLifecycleCommand.isRetry (command : TransitionOrganizationLifecycleCommand)
    (current : Authority) : Bool :=
  decide (current.state = command.target) &&
    decide ((current.revision : ℤ) = command.expectedRevision + 1) &&
    decide (current.closureLineageId = some command.closureLineageId) &&
    decide (current.lastActorId = command.actorUserId) &&
    decide (current.lastReasonCode = command.reasonCode) &&
    decide (current.lastSupportEvidenceRef = command.supportEvidenceRef)

def transition (context : LifecycleContext) (store : LifecycleStore)
    (command : TransitionOrganizationLifecycleCommand) :
    Except LifecycleError (OrganizationLifecycleStatus × LifecycleStore) := do
  let current ← readAuthorityForUpdate store command.organizationId
  if command.isRetry current then
    return (authorityStatus current, store)
  else if current.state ≠ command.source ∨ (current.revision : ℤ) ≠ command.expectedRevision ∨
      current.closureLineageId ≠ some command.closureLineageId then
    .error (.identity .organizationConflict "Organization lifecycle authority changed")
  else
    assertOrganizationLifecycleTransition command.source command.target
    assertOrganizationLifecycleTransitionReason command.source command.target command.reasonCode
    let supportEvidenceRef ← validateLifecycleEvidenceRef command.supportEvidenceRef
    commitChange context store current
      ({ command with supportEvidenceRef := supportEvidenceRef }.row current)
      (some command.closureLineageId) current.recoverableUntil command.now none

/-- A command of the lifecycle. -/
inductive LifecycleCommand
  | requestClosure (command : RequestOrganizationClosureCommand)
  | cancelClosure (command : CancelOrganizationClosureCommand)
  | reactivate (command : ReactivateOrganizationCommand)
  | transition (command : TransitionOrganizationLifecycleCommand)
  deriving DecidableEq, Repr

/-- The transaction of a command. -/
def LifecycleCommand.run (context : LifecycleContext) (store : LifecycleStore) :
    LifecycleCommand → Except LifecycleError (OrganizationLifecycleStatus × LifecycleStore)
  | .requestClosure command => Identity.requestClosure context store command
  | .cancelClosure command => Identity.cancelClosure context store command
  | .reactivate command => Identity.reactivate context store command
  | .transition command => Identity.transition context store command

end ReputationKey.Identity
