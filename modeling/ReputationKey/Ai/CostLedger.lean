import ReputationKey.Base.RowTable
import ReputationKey.Base.Refusal
import Mathlib.Data.Int.Notation

/-!
# The cost ledger of AI operations

A provider call is paid from its Organization's window of the month. Admitting an operation reserves
the most its call can cost and issues a nonce; settling the nonce, or reaping a reservation that was
left behind, moves what the call cost from reserved to settled. Each function is one transaction on
the operation's row and the window. Amounts are micros, instants epoch milliseconds. Follows
`src/src/shared/db/ai/ai-budget.ts`, `src/src/shared/db/ai/postgres-admission-authority.ts`,
`src/src/shared/ai-provider-pricing.ts` and the checks of `src/src/shared/db/schema/ai.schema.ts`.
-/

namespace ReputationKey.Ai

open Base

/-! ## Prices -/

/-- What a provider charges for `unitTokens` tokens. -/
structure AiProviderPriceCatalogue where
  unitTokens : ℕ
  uncachedInputMicros : ℕ
  cachedInputMicros : ℕ
  outputMicros : ℕ
  deriving DecidableEq, Repr

/-- What the ledger reads of an operation profile. -/
structure AiOperationProfile where
  sourceRoute : String
  profileVersion : String
  command : String
  capability : Option String
  providerDeploymentProfileVersion : String
  capabilityRuntimeProfileVersion : String
  providerPayloadByteLimit : ℕ
  staticTokenBearingBytes : ℕ
  maxOutputTokens : ℕ
  deriving DecidableEq, Repr

/-- The static tables: the operation profiles, the price lists, the providers, the static token figure
of each profile and provider, and the dynamic prompt bytes of a profile. -/
structure AiProviderTables where
  operationProfiles : List AiOperationProfile
  priceCatalogueOfProvider : Option String → Option AiProviderPriceCatalogue
  providerIds : List String
  operationProviderPairing : String → String → Option ℕ
  replyDynamicDeveloperBytes : String → ℕ

/-- `Number.MAX_SAFE_INTEGER`. -/
def maxSafeMicros : ℕ := 9007199254740991

/-- What aborts a transaction. -/
inductive AiLedgerError
  | rangeError (message : String)
  | noActiveReservation
  | settledDifferently
  | exceedsReservation
  | windowCouldNotSettle
  | staleWindowInconsistent
  | receiptKeyMismatch
  | checkViolated (constraint : String)
  deriving DecidableEq, Repr

/-- The most an operation can cost. -/
def maximumCostMicrosWith (catalogue : AiProviderPriceCatalogue)
    (staticTokenBearingBytes maxOutputTokens providerPayloadBytes : ℕ) : Except AiLedgerError ℕ :=
  let numerator := (staticTokenBearingBytes + providerPayloadBytes) * catalogue.uncachedInputMicros +
    maxOutputTokens * catalogue.outputMicros
  let result := (numerator + catalogue.unitTokens - 1) / catalogue.unitTokens
  if maxSafeMicros < staticTokenBearingBytes ∨ maxSafeMicros < maxOutputTokens ∨
      maxSafeMicros < providerPayloadBytes then
    .error (.rangeError "AI maximum cost inputs must be nonnegative safe integers")
  else if catalogue.unitTokens = 0 then .error (.rangeError "Division by zero")
  else if maxSafeMicros < result then
    .error (.rangeError "AI maximum cost exceeds the safe integer range")
  else .ok result

/-- What a settled call cost, partial micros charged. -/
def settledCostMicrosWith (catalogue : AiProviderPriceCatalogue)
    (inputTokens cachedInputTokens outputTokens : ℕ) : Except AiLedgerError ℕ :=
  if maxSafeMicros < inputTokens ∨ maxSafeMicros < cachedInputTokens ∨
      maxSafeMicros < outputTokens ∨ inputTokens < cachedInputTokens then
    .error (.rangeError "AI settled usage must be nonnegative safe integers")
  else if catalogue.unitTokens = 0 then .error (.rangeError "Division by zero")
  else
    .ok (((inputTokens - cachedInputTokens) * catalogue.uncachedInputMicros +
      cachedInputTokens * catalogue.cachedInputMicros + outputTokens * catalogue.outputMicros +
      catalogue.unitTokens - 1) / catalogue.unitTokens)

/-! ## The tables -/

/-- What an operation's execution keeps; other code writes these columns. -/
structure AiOperationHead where
  id : String
  organizationId : Option String
  propertyId : Option String
  command : String
  capability : String
  providerId : Option String
  state : String
  executionAttempt : ℕ
  executionPermitId : Option String
  sourceDigest : String
  sourceByteCount : ℕ
  replyDraftingV2 : String
  expiresAt : ℤ
  deriving DecidableEq, Repr

/-- An operation's row, with its admission and its reservation. -/
structure AiOperation extends AiOperationHead where
  routeKey : Option String
  admissionNonce : Option String
  requestBindingKeyId : Option String
  requestBindingHmac : Option String
  grantKid : Option String
  costWindowId : Option String
  reservedMicros : ℕ
  actualMicros : Option ℕ
  budgetReservedAt : Option ℤ
  budgetSettledAt : Option ℤ
  deriving DecidableEq, Repr

/-- An Organization's window of a month. -/
structure AiCostWindow where
  id : String
  organizationId : String
  windowStart : ℤ
  reservedMicros : ℕ
  settledMicros : ℕ
  capMicros : ℕ
  deriving DecidableEq, Repr

/-- The two tables. -/
structure AiCostLedger where
  operations : List AiOperation
  windows : List AiCostWindow
  deriving DecidableEq, Repr

/-- The check `ai_operations_budget_valid`. -/
def AiOperation.budgetValid (row : AiOperation) : Bool :=
  decide (row.reservedMicros ≤ maxSafeMicros) &&
    (row.actualMicros.all fun actual ↦ decide (actual ≤ row.reservedMicros)) &&
    (row.costWindowId.isNone && decide (row.reservedMicros = 0) && row.budgetReservedAt.isNone ||
      row.costWindowId.isSome && decide (0 < row.reservedMicros) && row.budgetReservedAt.isSome) &&
    (row.budgetSettledAt.isNone && row.actualMicros.isNone ||
      row.actualMicros.isSome && (match row.budgetSettledAt, row.budgetReservedAt with
        | some settledAt, some reservedAt => decide (reservedAt ≤ settledAt)
        | _, _ => false))

/-- The check `ai_organization_cost_windows_valid`, apart from the start of a month. -/
def AiCostWindow.valid (row : AiCostWindow) : Bool :=
  decide (row.reservedMicros ≤ row.capMicros) && decide (row.settledMicros ≤ row.capMicros) &&
    decide (row.reservedMicros + row.settledMicros ≤ row.capMicros) && decide (1 ≤ row.capMicros) &&
    decide (row.capMicros ≤ maxSafeMicros)

namespace AiCostLedger

variable (ledger : AiCostLedger)

def operation (id : String) : Option AiOperation := RowTable.find (·.id) id ledger.operations

def window (id : String) : Option AiCostWindow := RowTable.find (·.id) id ledger.windows

/-- Update an operation's row under its check. -/
def updateOperation (id : String) (change : AiOperation → AiOperation) :
    Except AiLedgerError AiCostLedger :=
  if (ledger.operation id).any fun row ↦ !(change row).budgetValid then
    .error (.checkViolated "ai_operations_budget_valid")
  else .ok { ledger with operations := RowTable.alter (·.id) id change ledger.operations }

/-- Update a window's row under its check. -/
def updateWindow (id : String) (change : AiCostWindow → AiCostWindow) :
    Except AiLedgerError AiCostLedger :=
  if (ledger.window id).any fun row ↦ !(change row).valid then
    .error (.checkViolated "ai_organization_cost_windows_valid")
  else .ok { ledger with windows := RowTable.alter (·.id) id change ledger.windows }

end AiCostLedger

/-! ## Budget control -/

def organizationMonthlyCapMicros : ℕ := 50000000

/-- Fifteen minutes. -/
def reservationTtlMillis : ℤ := 900000

/-- An execution control as the admission reads it. -/
structure AiExecutionControl where
  scopeKey : String
  executionState : String
  admissionState : String
  deriving DecidableEq, Repr

/-- What a transaction reads outside the two tables: the static tables, the controls, its clocks, the
start of the month of an instant, and the texts it draws. -/
structure AiLedgerContext where
  tables : AiProviderTables
  controls : List AiExecutionControl
  now : ℤ
  budgetNow : ℤ
  monthStart : ℤ → ℤ
  windowId : String
  nonce : String
  signingKid : String

def profileForRoute (tables : AiProviderTables) (routeKey : String)
    (operationProfileVersion : Option String) : Option AiOperationProfile :=
  tables.operationProfiles.find? fun profile ↦
    decide (profile.sourceRoute = routeKey) && profile.capability.isSome &&
      operationProfileVersion.all fun version ↦ decide (profile.profileVersion = version)

/-- What an operation may cost by its provider's prices; none for a provider or a profile without. -/
def reservationFor (tables : AiProviderTables) (profile : AiOperationProfile)
    (providerId : Option String) (providerPayloadBytes : ℕ) : Except AiLedgerError (Option ℕ) :=
  let dynamicBytes := tables.replyDynamicDeveloperBytes profile.profileVersion
  match tables.priceCatalogueOfProvider providerId with
  | none => .ok none
  | some pricing =>
      match providerId with
      | none =>
          (maximumCostMicrosWith pricing (profile.staticTokenBearingBytes + dynamicBytes)
            profile.maxOutputTokens providerPayloadBytes).map some
      | some provider =>
          if provider ∉ tables.providerIds then .ok none
          else
            match tables.operationProviderPairing profile.profileVersion provider with
            | none => .ok none
            | some bytes =>
                (maximumCostMicrosWith pricing (bytes + dynamicBytes) profile.maxOutputTokens
                  providerPayloadBytes).map some

inductive AiBudgetDenial
  | killSwitch
  | budgetExhausted
  | capabilityUnavailable
  deriving DecidableEq, Repr

/-- The Organization's window of the month, opened if it is not there. -/
def openWindow (ledger : AiCostLedger) (organizationId : String) (start : ℤ) (id : String) :
    Except AiLedgerError AiCostLedger :=
  if ledger.windows.any fun w ↦
      decide (w.organizationId = organizationId) && decide (w.windowStart = start) then
    .ok ledger
  else if (ledger.window id).isSome then .error (.checkViolated "ai_organization_cost_windows_pkey")
  else
    .ok { ledger with
      windows := ⟨id, organizationId, start, 0, 0, organizationMonthlyCapMicros⟩ :: ledger.windows }

/-- The controls of a profile are all there and let an operation in. -/
def controlsAccept (controls : List AiExecutionControl) (profile : AiOperationProfile)
    (capability : String) : Bool :=
  let controlKeys := ["global", "provider:" ++ profile.providerDeploymentProfileVersion,
    "capability:" ++ capability]
  let read := controls.filter fun control ↦ decide (control.scopeKey ∈ controlKeys)
  decide (read.length = controlKeys.length) &&
    read.all fun control ↦
      decide (control.executionState = "enabled") && decide (control.admissionState = "accepting")

structure AiBudgetAdmissionInput where
  organizationId : String
  propertyId : String
  operationKey : String
  routeKey : String
  operationProfileVersion : Option String
  providerPayloadBytes : ℤ
  deriving DecidableEq, Repr

/-- Reserve the most an operation can cost, in its Organization's window of the month. An operation
that holds a reservation keeps it. -/
def admitAiOperation (context : AiLedgerContext) (ledger : AiCostLedger)
    (input : AiBudgetAdmissionInput) :
    Except AiLedgerError ((AiBudgetDenial ⊕ ℕ) × AiCostLedger) :=
  match profileForRoute context.tables input.routeKey input.operationProfileVersion with
  | none => .ok (.inl .capabilityUnavailable, ledger)
  | some profile =>
      if input.providerPayloadBytes < 0 ∨ maxSafeMicros < input.providerPayloadBytes ∨
          profile.providerPayloadByteLimit < input.providerPayloadBytes then
        .ok (.inl .capabilityUnavailable, ledger)
      else
        match (ledger.operation input.operationKey).filter fun row ↦
            decide (row.organizationId = some input.organizationId) &&
              decide (row.propertyId = some input.propertyId),
          profile.capability with
        | some operation, some capability =>
            if operation.command ≠ profile.command ∨ operation.capability ≠ capability then
              .ok (.inl .capabilityUnavailable, ledger)
            else if operation.costWindowId ≠ none ∧ 0 < operation.reservedMicros then
              .ok (.inr operation.reservedMicros, ledger)
            else if controlsAccept context.controls profile capability = false then
              .ok (.inl .killSwitch, ledger)
            else do
              match ← reservationFor context.tables profile operation.providerId
                  input.providerPayloadBytes.toNat with
              | none => .ok (.inl .capabilityUnavailable, ledger)
              | some reservedMicros =>
                  let start := context.monthStart context.budgetNow
                  let opened ← openWindow ledger input.organizationId start context.windowId
                  match opened.windows.find? fun w ↦
                      decide (w.organizationId = input.organizationId) &&
                        decide (w.windowStart = start) &&
                        decide (w.reservedMicros + w.settledMicros + reservedMicros ≤ w.capMicros)
                    with
                  | none => .ok (.inl .budgetExhausted, opened)
                  | some window =>
                      let charged ← opened.updateWindow window.id fun w ↦
                        { w with reservedMicros := w.reservedMicros + reservedMicros }
                      let reserved ← charged.updateOperation operation.id fun row ↦
                        { row with
                          routeKey := some input.routeKey
                          costWindowId := some window.id
                          reservedMicros := reservedMicros
                          budgetReservedAt := some context.budgetNow }
                      return (.inr reservedMicros, reserved)
        | _, _ => .ok (.inl .capabilityUnavailable, ledger)

/-- Settle an operation's reservation at a cost, once. -/
def settleAiOperation (context : AiLedgerContext) (ledger : AiCostLedger) (operationId : String)
    (actualMicros : ℕ) : Except AiLedgerError AiCostLedger :=
  if maxSafeMicros < actualMicros then
    .error (.rangeError "AI actual cost must be a nonnegative safe integer")
  else
    match ledger.operation operationId with
    | none => .error .noActiveReservation
    | some operation =>
        match operation.costWindowId with
        | none => .error .noActiveReservation
        | some costWindowId =>
            if operation.reservedMicros = 0 then .error .noActiveReservation
            else if operation.budgetSettledAt ≠ none then
              if operation.actualMicros ≠ some actualMicros then .error .settledDifferently
              else .ok ledger
            else if operation.reservedMicros < actualMicros then .error .exceedsReservation
            else if ((ledger.window costWindowId).any fun w ↦
                decide (operation.reservedMicros ≤ w.reservedMicros) &&
                  decide (w.settledMicros + actualMicros ≤ w.capMicros)) = false then
              .error .windowCouldNotSettle
            else do
              let released ← ledger.updateWindow costWindowId fun w ↦
                { w with
                  reservedMicros := w.reservedMicros - operation.reservedMicros
                  settledMicros := w.settledMicros + actualMicros }
              released.updateOperation operationId fun row ↦
                { row with
                  actualMicros := some actualMicros
                  budgetSettledAt := some context.budgetNow }

/-- A reservation that the reaper picks. -/
def AiOperation.isStale (row : AiOperation) (clock : ℤ) : Bool :=
  row.budgetSettledAt.isNone &&
    (row.budgetReservedAt.any fun reservedAt ↦ decide (reservedAt ≤ clock - reservationTtlMillis)) &&
    decide (0 < row.reservedMicros)

/-- Settle one stale reservation: an admission may have been dispatched and costs its maximum, a
reservation without one costs nothing. -/
def reapReservation (clock : ℤ) (ledger : AiCostLedger) (operation : AiOperation) :
    Except AiLedgerError AiCostLedger :=
  match operation.costWindowId with
  | none => .ok ledger
  | some costWindowId =>
      let actualMicros := if operation.admissionNonce = none then 0 else operation.reservedMicros
      if ((ledger.window costWindowId).any fun w ↦
          decide (operation.reservedMicros ≤ w.reservedMicros)) = false then
        .error .staleWindowInconsistent
      else do
        let released ← ledger.updateWindow costWindowId fun w ↦
          { w with
            reservedMicros := w.reservedMicros - operation.reservedMicros
            settledMicros := w.settledMicros + actualMicros }
        released.updateOperation operation.id fun row ↦
          { row with actualMicros := some actualMicros, budgetSettledAt := some clock }

/-- The stale rows a pass locks: those that no other transaction holds. -/
def staleReservations (clock : ℤ) (ledger : AiCostLedger) (unlocked : String → Bool) :
    List AiOperation :=
  ledger.operations.filter fun row ↦ row.isStale clock && unlocked row.id

/-- A pass of the reaper. -/
def reapStaleAiReservations (clock : ℤ) (ledger : AiCostLedger) (unlocked : String → Bool) :
    Except AiLedgerError (ℕ × AiCostLedger) := do
  let operations := staleReservations clock ledger unlocked
  let after ← operations.foldlM (reapReservation clock) ledger
  return (operations.length, after)

/-! ## The admission authority -/

/-- The binding of a request: the key and the digest it was signed with. -/
structure AiRequestBinding where
  keyId : String
  hmac : String
  deriving DecidableEq, Repr

/-- What a call asks to be admitted for. -/
structure AiAdmissionDescriptor where
  route : String
  operationId : String
  organizationId : String
  propertyId : String
  attemptNumber : ℕ
  permitId : String
  sourceDigest : String
  sourceByteCount : ℕ
  callerDeadlineEpochMillis : ℤ
  providerPayloadByteCount : ℤ
  operationProfileVersion : String
  providerDeploymentProfileVersion : String
  capabilityRuntimeProfileVersion : String
  replyDraftingV2 : String
  deriving DecidableEq, Repr

inductive AiPropertyDenial
  | authorizationChanged
  | subjectMismatch
  | permitExpired
  | alreadyConsumed
  | controlDisabled
  | quotaExhausted
  deriving DecidableEq, Repr

def admissionDenial : AiBudgetDenial → AiPropertyDenial
  | .killSwitch => .controlDisabled
  | .budgetExhausted => .quotaExhausted
  | .capabilityUnavailable => .authorizationChanged

/-- An answer to an admission. -/
inductive AiAdmissionAnswer
  | denied (code : AiPropertyDenial)
  | admitted (nonce : String) (issuedAtEpochMillis expiresAtEpochMillis : ℤ)
      (adoptionWindowEnd : Option ℤ)
  deriving DecidableEq, Repr

/-- `AI_REPLY_ADOPTION_WINDOW_MILLIS`. -/
def aiReplyAdoptionWindowMillis : ℤ := 600000

def profileFor (tables : AiProviderTables) (route operationProfileVersion : String) :
    Option AiOperationProfile :=
  tables.operationProfiles.find? fun profile ↦
    decide (profile.sourceRoute = route) &&
      decide (profile.profileVersion = operationProfileVersion) && profile.capability.isSome

def releasedWithoutCharge (operation : AiOperation) : Bool :=
  operation.budgetSettledAt.isSome && decide (operation.actualMicros = some 0)

/-- `RELEASED_ADMISSION_CLEARED`. -/
def releasedAdmissionCleared (row : AiOperation) : AiOperation :=
  { row with
    admissionNonce := none
    requestBindingKeyId := none
    requestBindingHmac := none
    grantKid := none
    costWindowId := none
    reservedMicros := 0
    budgetReservedAt := none
    budgetSettledAt := none
    actualMicros := none }

/-- The operation that a descriptor names, if its execution is the one described. -/
def executingOperation (ledger : AiCostLedger) (descriptor : AiAdmissionDescriptor) :
    Option AiOperation :=
  (ledger.operation descriptor.operationId).filter fun row ↦
    decide (row.organizationId = some descriptor.organizationId) &&
      decide (row.propertyId = some descriptor.propertyId) && decide (row.state = "executing") &&
      decide (row.executionAttempt = descriptor.attemptNumber) &&
      decide (row.executionPermitId = some descriptor.permitId) &&
      decide (row.sourceDigest = descriptor.sourceDigest) &&
      decide (row.sourceByteCount = descriptor.sourceByteCount) &&
      decide (row.replyDraftingV2 = descriptor.replyDraftingV2)

/-- Admit an operation afresh: reserve, and issue a nonce. -/
def admitAfresh (context : AiLedgerContext) (ledger : AiCostLedger)
    (descriptor : AiAdmissionDescriptor) (binding : AiRequestBinding)
    (adoptionWindowEnd : Option ℤ) : Except AiLedgerError (AiAdmissionAnswer × AiCostLedger) := do
  let (admitted, reserved) ← admitAiOperation context ledger
    { organizationId := descriptor.organizationId
      propertyId := descriptor.propertyId
      operationKey := descriptor.operationId
      routeKey := descriptor.route
      operationProfileVersion := some descriptor.operationProfileVersion
      providerPayloadBytes := descriptor.providerPayloadByteCount }
  match admitted with
  | .inl code => .ok (.denied (admissionDenial code), reserved)
  | .inr _ =>
      let issued ← reserved.updateOperation descriptor.operationId fun row ↦
        { row with
          admissionNonce := some context.nonce
          requestBindingKeyId := some binding.keyId
          requestBindingHmac := some binding.hmac
          grantKid := some context.signingKid }
      return (.admitted context.nonce context.now descriptor.callerDeadlineEpochMillis
        adoptionWindowEnd, issued)

/-- Admit an operation's provider call. The same binding is answered with its nonce again; a released
admission makes way for the next one; any other admission is consumed. -/
def authorizeProperty (context : AiLedgerContext) (ledger : AiCostLedger)
    (descriptor : AiAdmissionDescriptor) (binding : AiRequestBinding) :
    Except AiLedgerError (AiAdmissionAnswer × AiCostLedger) :=
  match profileFor context.tables descriptor.route descriptor.operationProfileVersion with
  | none => .ok (.denied .authorizationChanged, ledger)
  | some profile =>
      if descriptor.operationProfileVersion ≠ profile.profileVersion ∨
          descriptor.providerDeploymentProfileVersion ≠ profile.providerDeploymentProfileVersion ∨
          descriptor.capabilityRuntimeProfileVersion ≠ profile.capabilityRuntimeProfileVersion then
        .ok (.denied .authorizationChanged, ledger)
      else
        match executingOperation ledger descriptor with
        | none => .ok (.denied .subjectMismatch, ledger)
        | some operation =>
            if descriptor.callerDeadlineEpochMillis ≤ context.now then
              .ok (.denied .permitExpired, ledger)
            else
              let adoptionWindowEnd := if descriptor.route = "reply-suggestion" then
                some (min (context.now + aiReplyAdoptionWindowMillis) operation.expiresAt) else none
              match operation.admissionNonce with
              | none => admitAfresh context ledger descriptor binding adoptionWindowEnd
              | some nonce =>
                  if operation.requestBindingKeyId = some binding.keyId ∧
                      operation.requestBindingHmac = some binding.hmac then
                    .ok (.admitted nonce context.now descriptor.callerDeadlineEpochMillis
                      adoptionWindowEnd, ledger)
                  else if releasedWithoutCharge operation = false then
                    .ok (.denied .alreadyConsumed, ledger)
                  else do
                    let cleared ← ledger.updateOperation descriptor.operationId
                      releasedAdmissionCleared
                    admitAfresh context cleared descriptor binding adoptionWindowEnd

/-! ## Settlement -/

/-- What the gateway reports of a call. -/
inductive AiGatewayDisposition
  | success
  | noDispatch
  | providerRefused
  | outputInvalid
  | outputTruncated
  | rateLimited
  | quotaExhausted
  | providerUnavailable
  | callerAborted
  | deadlineExceeded
  | transportAmbiguous
  deriving DecidableEq, Repr

inductive AiSettlementState
  | settled
  | released
  | ambiguous
  deriving DecidableEq, Repr

structure AiSettlementRequest where
  operationId : String
  permitId : String
  attemptNumber : ℕ
  nonce : String
  disposition : AiGatewayDisposition
  providerRetryable : Bool
  usageKnown : Bool
  inputTokens : ℕ
  cachedInputTokens : ℕ
  outputTokens : ℕ
  reasoningTokens : ℕ
  deriving DecidableEq, Repr

def settlementState : AiGatewayDisposition → AiSettlementState
  | .noDispatch => .released
  | .transportAmbiguous => .ambiguous
  | _ => .settled

/-- What a settlement charges. -/
def settledCost (request : AiSettlementRequest) (reservedMicros : ℕ) :
    Option AiProviderPriceCatalogue → Except AiLedgerError ℕ
  | none => .ok 0
  | some pricing =>
      if request.disposition = .noDispatch then .ok 0
      else if request.usageKnown = false then .ok reservedMicros
      else
        settledCostMicrosWith pricing request.inputTokens request.cachedInputTokens
          request.outputTokens

inductive AiSettlementDenial
  | permitUnknown
  | permitMismatch
  | settlementConflict
  deriving DecidableEq, Repr

/-- An answer to a settlement; it repeats what the request reported. -/
inductive AiSettlementAnswer
  | denied (code : AiSettlementDenial)
  | settled (request : AiSettlementRequest) (grantKid requestBindingHmac : String)
      (costMicros : ℕ) (settledAtEpochMillis : ℤ) (settlementState : AiSettlementState)
  deriving DecidableEq, Repr

/-- Settle a nonce at what its call cost. -/
def settle (context : AiLedgerContext) (ledger : AiCostLedger) (request : AiSettlementRequest)
    (receiptKid : String) : Except AiLedgerError (AiSettlementAnswer × AiCostLedger) :=
  if receiptKid ≠ context.signingKid then .error .receiptKeyMismatch
  else
    match ledger.operation request.operationId with
    | none => .ok (.denied .permitUnknown, ledger)
    | some operation =>
        match operation.requestBindingHmac with
        | none => .ok (.denied .permitMismatch, ledger)
        | some hmac =>
            if operation.executionPermitId ≠ some request.permitId ∨
                operation.executionAttempt ≠ request.attemptNumber ∨
                operation.admissionNonce ≠ some request.nonce ∨
                operation.grantKid ≠ some receiptKid then
              .ok (.denied .permitMismatch, ledger)
            else
              let pricing := context.tables.priceCatalogueOfProvider operation.providerId
              if pricing = none ∧ request.disposition ≠ .noDispatch then
                .ok (.denied .settlementConflict, ledger)
              else do
                let cost ← settledCost request operation.reservedMicros pricing
                let answer := AiSettlementAnswer.settled request receiptKid hmac cost context.now
                  (settlementState request.disposition)
                if maxSafeMicros < cost ∨ operation.reservedMicros < cost then
                  .ok (.denied .settlementConflict, ledger)
                else if operation.budgetSettledAt = none then
                  let settled ← settleAiOperation context ledger request.operationId cost
                  return (answer, settled)
                else if operation.actualMicros ≠ some cost then
                  .ok (.denied .settlementConflict, ledger)
                else .ok (answer, ledger)

end ReputationKey.Ai
