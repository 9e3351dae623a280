import ReputationKey.Shared.JsString

/-!
# The work ledger

One row holds one piece of work: who may run it, how often it was tried, and how it ended. Every
operation is one guarded update. Times are epoch milliseconds. Follows
`src/src/shared/db/work-items.server.ts` and `src/src/shared/db/schema/work-items.schema.ts`.
-/

namespace ReputationKey.Shared

/-! ## Rows -/

/-- Where a piece of work stands. -/
inductive WorkState
  | pending
  | running
  | succeeded
  | quarantined
  | uncertain
  | cancelled
  | discarded
  deriving DecidableEq, Repr

/-- What a failed run leaves: work that may run again, or an external write to read back first. -/
inductive WorkRecovery
  | retry
  | readBack
  deriving DecidableEq, Repr

/-- Why a run did not succeed. -/
inductive WorkError
  | leaseExpired
  | attemptsExhausted
  | handlerFailed
  | uncertainWrite
  deriving DecidableEq, Repr

/-- A row of the ledger. -/
structure WorkItem where
  id : Nat
  organizationId : String
  subjectId : String
  kind : String
  idempotencyKey : String
  recovery : WorkRecovery
  state : WorkState
  dueAt : Int
  dispatchAfter : Int
  dispatchSequence : Nat
  attempts : Nat
  maxAttempts : Nat
  leaseToken : Option Nat
  leaseExpiresAt : Option Int
  errorCode : Option WorkError
  operatorId : Option String
  operatorReason : Option String
  createdAt : Int
  updatedAt : Int
  completedAt : Option Int
  deriving DecidableEq, Repr

/-- What a row is unique by. -/
def WorkItem.key (row : WorkItem) : String × String × String :=
  (row.organizationId, row.kind, row.idempotencyKey)

/-- What a source command asks for. -/
structure WorkRequest where
  organizationId : String
  subjectId : String
  kind : String
  idempotencyKey : String
  dueAt : Int
  recovery : WorkRecovery
  maxAttempts : Option Nat
  deriving DecidableEq, Repr

/-- How often work may be tried unless its request says otherwise. -/
def defaultMaxAttempts : Nat := 8

/-! ## Scheduling -/

/-- The row a request inserts. -/
def WorkRequest.row (input : WorkRequest) (id : Nat) (now : Int) : WorkItem :=
  { id := id
    organizationId := input.organizationId
    subjectId := input.subjectId
    kind := input.kind
    idempotencyKey := input.idempotencyKey
    recovery := input.recovery
    state := .pending
    dueAt := input.dueAt
    dispatchAfter := input.dueAt
    dispatchSequence := 0
    attempts := 0
    maxAttempts := input.maxAttempts.getD defaultMaxAttempts
    leaseToken := none
    leaseExpiresAt := none
    errorCode := none
    operatorId := none
    operatorReason := none
    createdAt := now
    updatedAt := now
    completedAt := none }

/-- The table's checks that a new row may fail. -/
def WorkItem.passesInsertChecks (row : WorkItem) : Bool :=
  decide (1 ≤ row.maxAttempts ∧ row.maxAttempts ≤ 100) &&
    decide (1 ≤ row.kind.length ∧ row.kind.length ≤ 160) &&
    decide (1 ≤ row.idempotencyKey.length ∧ row.idempotencyKey.length ≤ 255) &&
    decide (1 ≤ row.subjectId.length ∧ row.subjectId.length ≤ 255) &&
    decide (0 < row.organizationId.length)

/-- The row of a key. -/
def findWork (rows : List WorkItem) (key : String × String × String) : Option WorkItem :=
  rows.find? fun row ↦ decide (row.key = key)

/-- Schedules work once: the rows afterwards and the row that holds the work. -/
def scheduleWork (rows : List WorkItem) (input : WorkRequest) (id : Nat) (now : Int) :
    Except String (List WorkItem × WorkItem) :=
  match findWork rows (input.row id now).key with
  | none =>
      if (input.row id now).passesInsertChecks = false then .error "work_items_check"
      else if (rows.any fun row ↦ decide (row.id = id)) = true then .error "work_items_pkey"
      else .ok (input.row id now :: rows, input.row id now)
  | some existing =>
      if existing.subjectId ≠ input.subjectId ∨ existing.recovery ≠ input.recovery then
        .error "Work idempotency key binding mismatch"
      else .ok (rows, existing)

/-! ## Guarded updates of one row -/

/-- A worker takes a due row. -/
def WorkItem.claim (row : WorkItem) (leaseMs : Int) (token : Nat) (now : Int) : Option WorkItem :=
  if row.state = .pending ∧ row.dueAt ≤ now ∧ row.attempts < row.maxAttempts then
    some { row with
      state := .running
      leaseToken := some token
      leaseExpiresAt := some (now + leaseMs)
      attempts := row.attempts + 1
      updatedAt := now }
  else none

/-- The holder of a lease puts its expiry off. -/
def WorkItem.renew (row : WorkItem) (token : Nat) (leaseMs now : Int) : Option WorkItem :=
  if row.state = .running ∧ row.leaseToken = some token then
    some { row with leaseExpiresAt := some (now + leaseMs), updatedAt := now }
  else none

/-- Whether a row runs under a token's lease. -/
def WorkItem.leasedBy (row : WorkItem) (token : Nat) (now : Int) : Bool :=
  decide (row.state = .running) && decide (row.leaseToken = some token) &&
    row.leaseExpiresAt.any fun expiresAt ↦ decide (now < expiresAt)

/-- The holder of a lease commits its effect and the success together. -/
def WorkItem.complete (row : WorkItem) (token : Nat) (now : Int) : Option WorkItem :=
  if row.leasedBy token now = true then
    some { row with
      state := .succeeded
      leaseToken := none
      leaseExpiresAt := none
      completedAt := some now
      updatedAt := now
      errorCode := none }
  else none

/-- Where a run that did not succeed leaves a row. -/
def WorkItem.stateAfterRun (row : WorkItem) (terminal : Bool) : WorkState :=
  match row.recovery with
  | .readBack => .uncertain
  | .retry =>
      if terminal = true ∨ row.maxAttempts ≤ row.attempts then .quarantined else .pending

/-- The error a run that did not succeed leaves. -/
def WorkItem.errorAfterRun (row : WorkItem) (otherwise : WorkError) : WorkError :=
  match row.recovery with
  | .readBack => .uncertainWrite
  | .retry => if row.maxAttempts ≤ row.attempts then .attemptsExhausted else otherwise

/-- When a failed run is tried again unless it says so itself. -/
def retryDelayMs : Int := 60000

/-- The holder of a lease reports a failure. -/
def WorkItem.fail (row : WorkItem) (token : Nat) (retryAt : Option Int) (terminal : Bool)
    (now : Int) : Option WorkItem :=
  if row.leasedBy token now = true then
    some { row with
      state := row.stateAfterRun terminal
      errorCode := some (row.errorAfterRun .handlerFailed)
      leaseToken := none
      leaseExpiresAt := none
      dueAt := retryAt.getD (now + retryDelayMs)
      dispatchAfter := retryAt.getD (now + retryDelayMs)
      updatedAt := now }
  else none

/-- What reading an uncertain write back finds. -/
inductive ReadBack
  | applied
  | notApplied
  | unknown
  deriving DecidableEq, Repr

/-- Settles an uncertain row from a read-back, when the row is still the one that was read. -/
def WorkItem.resolveUncertain (row snapshot : WorkItem) (observation : ReadBack) (now : Int) :
    Option WorkItem :=
  if snapshot.state ≠ .uncertain ∨ observation = .unknown then none
  else if row.state = .uncertain ∧ row.attempts = snapshot.attempts ∧
      row.updatedAt = snapshot.updatedAt then
    some { row with
      state :=
        if observation = .applied then .succeeded
        else if snapshot.maxAttempts ≤ snapshot.attempts then .quarantined
        else .pending
      completedAt := if observation = .applied then some now else none
      errorCode :=
        if observation = .applied then none
        else if snapshot.maxAttempts ≤ snapshot.attempts then some .attemptsExhausted
        else none
      dueAt := now
      dispatchAfter := now
      updatedAt := now }
  else none

/-- An expired lease ends. -/
def WorkItem.expire (row : WorkItem) (now : Int) : Option WorkItem :=
  if row.state = .running ∧
      (row.leaseExpiresAt.any fun expiresAt ↦ decide (expiresAt ≤ now)) = true then
    some { row with
      state := row.stateAfterRun false
      errorCode := some (row.errorAfterRun .leaseExpired)
      leaseToken := none
      leaseExpiresAt := none
      updatedAt := now
      dispatchAfter := now }
  else none

/-- A due row is handed to the queue once more. -/
def WorkItem.dispatch (row : WorkItem) (cutoff now : Int) : Option WorkItem :=
  if row.state = .pending ∧ row.dueAt ≤ now ∧ row.dispatchAfter ≤ cutoff then
    some { row with
      dispatchAfter := now + retryDelayMs
      dispatchSequence := row.dispatchSequence + 1
      updatedAt := now }
  else none

/-- What an operator may do with a row. -/
inductive OperatorAction
  | retry
  | cancel
  | discard
  deriving DecidableEq, Repr

/-- The states an action starts from. -/
def OperatorAction.allowed : OperatorAction → List WorkState
  | .retry => [.quarantined]
  | .cancel => [.pending, .quarantined]
  | .discard => [.pending, .quarantined, .uncertain, .cancelled]

/-- The state an action leaves. -/
def OperatorAction.target : OperatorAction → WorkState
  | .retry => .pending
  | .cancel => .cancelled
  | .discard => .discarded

/-- An operator settles a row, or lets it be tried again. -/
def WorkItem.operate (row : WorkItem) (action : OperatorAction) (operatorId reason : String)
    (now : Int) : Option WorkItem :=
  if row.state ∈ action.allowed ∧ (action = .retry → row.attempts < 100) then
    some { row with
      state := action.target
      maxAttempts := if action = .retry then min (row.maxAttempts + 8) 100 else row.maxAttempts
      dueAt := if action = .retry then now else row.dueAt
      dispatchAfter := if action = .retry then now else row.dispatchAfter
      errorCode := if action = .retry then none else row.errorCode
      completedAt := if action = .retry then none else some now
      updatedAt := now
      operatorId := some operatorId
      operatorReason := some reason }
  else none

/-! ## Updates of the table -/

/-- A guarded update of the row with an organization and an id. -/
def updateWork (rows : List WorkItem) (organizationId : String) (id : Nat)
    (update : WorkItem → Option WorkItem) : List WorkItem :=
  rows.map fun row ↦
    if row.organizationId = organizationId ∧ row.id = id then (update row).getD row else row

/-- A guarded update of the rows that a statement picked. -/
def updatePicked (rows : List WorkItem) (picked : Nat → Bool)
    (update : WorkItem → Option WorkItem) : List WorkItem :=
  rows.map fun row ↦ if picked row.id = true then (update row).getD row else row

/-- The leases a claim may ask for. -/
def validLease (leaseMs : Int) : Bool := decide (1 ≤ leaseMs ∧ leaseMs ≤ 3600000)

/-- The operators and reasons an action may carry. -/
def validReason (operatorId reason : String) : Bool :=
  !isBlank operatorId && !isBlank reason && decide (utf16Length reason ≤ 500)

/-- What a worker, the dispatcher or an operator does to the ledger. Each carries what it read
before and its own clock. -/
inductive WorkEvent
  | schedule (input : WorkRequest) (id : Nat) (now : Int)
  | claim (organizationId : String) (id : Nat) (leaseMs : Int) (token : Nat) (now : Int)
  | renew (organizationId : String) (id token : Nat) (leaseMs now : Int)
  | complete (organizationId : String) (id token : Nat) (now : Int)
  | fail (organizationId : String) (id token : Nat) (retryAt : Option Int) (terminal : Bool)
      (now : Int)
  | resolveUncertain (organizationId : String) (id : Nat) (snapshot : WorkItem)
      (observation : ReadBack) (now : Int)
  /-- The two statements of `reserveDispatch`: which of the rows they may take they do take is up to
  locks and limits. -/
  | expireLeases (available : Nat → Bool) (now : Int)
  | dispatchDue (picked : Nat → Bool) (cutoff now : Int)
  | operate (organizationId : String) (id : Nat) (action : OperatorAction)
      (operatorId reason : String) (now : Int)

/-- The rows an event leaves. One that is refused, or raises, leaves them as they are. -/
def WorkEvent.run (rows : List WorkItem) : WorkEvent → List WorkItem
  | .schedule input id now =>
      match scheduleWork rows input id now with
      | .ok (rows, _) => rows
      | .error _ => rows
  | .claim organizationId id leaseMs token now =>
      updateWork rows organizationId id fun row ↦
        if validLease leaseMs = true then row.claim leaseMs token now else none
  | .renew organizationId id token leaseMs now =>
      updateWork rows organizationId id fun row ↦ row.renew token leaseMs now
  | .complete organizationId id token now =>
      updateWork rows organizationId id fun row ↦ row.complete token now
  | .fail organizationId id token retryAt terminal now =>
      updateWork rows organizationId id fun row ↦ row.fail token retryAt terminal now
  | .resolveUncertain organizationId id snapshot observation now =>
      updateWork rows organizationId id fun row ↦ row.resolveUncertain snapshot observation now
  | .expireLeases available now => updatePicked rows available fun row ↦ row.expire now
  | .dispatchDue picked cutoff now => updatePicked rows picked fun row ↦ row.dispatch cutoff now
  | .operate organizationId id action operatorId reason now =>
      updateWork rows organizationId id fun row ↦
        if validReason operatorId reason = true then row.operate action operatorId reason now
        else none

end ReputationKey.Shared
