import ReputationKey.Shared.WorkItems

/-!
# Outbox delivery

Facts wait in the outbox until every consumer that must see one has left its receipt. A poll admits a
fact to the work ledger once; workers take its delivery from a queue that loses and repeats jobs,
dispatch the fact to its consumers and settle the delivery by the receipts. Times are epoch
milliseconds. Follows `src/src/shared/outbox/infrastructure/delivery.server.ts`,
`src/src/shared/outbox/dispatcher.ts`, `src/src/shared/outbox/dispatch-job-options.ts` and
`src/src/shared/db/schema/outbox.schema.ts`.
-/

namespace ReputationKey.Shared

/-! ## Releases -/

/-- What a release of the program says about consumers: those its catalogue names for an event type
and those its workers register. -/
structure Release where
  catalogued : List (String × String)
  registered : List (String × String)
  deriving DecidableEq, Repr

/-- The consumers the catalogue names for an event type. -/
def Release.durableConsumersFor (release : Release) (eventType : String) : List String :=
  (release.catalogued.filter fun row ↦ decide (row.1 = eventType)).map (·.2)

/-- The consumers a worker registers for an event type. -/
def Release.listFor (release : Release) (eventType : String) : List String :=
  (release.registered.filter fun row ↦ decide (row.1 = eventType)).map (·.2)

/-- The consumers whose receipts settle a fact of an event type. -/
def Release.required (release : Release) (eventType : String) : List String :=
  release.durableConsumersFor eventType ++ release.listFor eventType

/-! ## Facts, receipts and admission -/

/-- A fact of the outbox. -/
structure OutboxEvent where
  id : String
  eventType : String
  organizationId : String
  publishedAt : Option Int
  leaseExpiresAt : Option Int
  recoveryFencedAt : Option Int
  deriving DecidableEq, Repr

/-- How a consumer processed a fact. -/
inductive ReceiptStatus
  | applied
  | duplicate
  | obsolete
  deriving DecidableEq, Repr

/-- A consumer's receipt for a fact. -/
structure ConsumerReceipt where
  eventId : String
  consumerName : String
  status : ReceiptStatus
  deriving DecidableEq, Repr

/-- The kind of the work that delivers a fact. -/
def outboxDeliveryKind : String := "outbox-delivery"

/-- How long a worker holds a delivery. -/
def outboxDeliveryLeaseMs : Int := 60000

/-- How often a delivery may be tried. -/
def outboxDeliveryMaxAttempts : Nat := 32

/-- How long a failed delivery waits. -/
def deliveryRetryDelayMs (attempt : Nat) : Int :=
  if (attempt - 1) % 8 = 7 then 2 * 60 * 60000 * 2 ^ (attempt / 8 - 1)
  else 30000 * 2 ^ ((attempt - 1) % 8)

/-- Whether a consumer has left its receipt for a fact. -/
def hasReceipt (receipts : List ConsumerReceipt) (eventId consumerName : String) : Bool :=
  receipts.any fun receipt ↦
    decide (receipt.eventId = eventId ∧ receipt.consumerName = consumerName)

/-- Leaves a receipt, unless there is one. -/
def insertReceipt (receipts : List ConsumerReceipt) (receipt : ConsumerReceipt) :
    List ConsumerReceipt :=
  if hasReceipt receipts receipt.eventId receipt.consumerName = true then receipts
  else receipt :: receipts

/-- Whether a fact waits for admission: the where-clause of `lockPending`. -/
def OutboxEvent.admissible (event : OutboxEvent) (items : List WorkItem)
    (receipts : List ConsumerReceipt) (expected : List (String × String)) (now : Int) : Bool :=
  event.recoveryFencedAt.isNone &&
    (event.leaseExpiresAt.all fun expiresAt ↦ decide (expiresAt ≤ now)) &&
    !(items.any fun row ↦ decide (row.organizationId = event.organizationId ∧
      row.kind = outboxDeliveryKind ∧ row.idempotencyKey = event.id)) &&
    (event.publishedAt.isNone || expected.any fun row ↦
      decide (row.1 = event.eventType) && !hasReceipt receipts event.id row.2)

/-- The columns of a fact that a poll reads. -/
structure PendingEvent where
  id : String
  organizationId : String
  eventType : String
  deriving DecidableEq, Repr

/-- Whether a fact has been admitted, by whichever worker. -/
def admittedElsewhere (items : List WorkItem) (event : PendingEvent) : Bool :=
  items.any fun row ↦ decide (row.kind = outboxDeliveryKind ∧ row.idempotencyKey = event.id)

/-- The work that delivers a fact. -/
def PendingEvent.request (event : PendingEvent) (now : Int) : WorkRequest :=
  { organizationId := event.organizationId
    subjectId := event.id
    kind := outboxDeliveryKind
    idempotencyKey := event.id
    dueAt := now
    recovery := .retry
    maxAttempts := some outboxDeliveryMaxAttempts }

/-- An admitted fact: published, and no longer leased. -/
def OutboxEvent.admitted (event : OutboxEvent) (now : Int) : OutboxEvent :=
  { event with publishedAt := some (event.publishedAt.getD now), leaseExpiresAt := none }

/-! ## Dispatches -/

/-- The claimed delivery a worker holds. -/
structure HeldWork where
  organizationId : String
  id : Nat
  subjectId : String
  token : Nat
  attempts : Nat
  deriving DecidableEq, Repr

/-- The stored fact as a dispatch read it. -/
structure ReadEvent where
  id : String
  eventType : String
  deriving DecidableEq, Repr

/-- Where a dispatch is. Between two steps a worker may crash and every other party may act. -/
inductive DispatchStep
  | resolved
  | claiming
  | reading (held : HeldWork)
  | checking (held : Option HeldWork) (event : ReadEvent) (rest : List String) (failed : Bool)
  | deciding (held : Option HeldWork) (event : ReadEvent) (consumer : String) (rest : List String)
      (failed : Bool)
  | handling (held : Option HeldWork) (event : ReadEvent) (consumer : String) (rest : List String)
      (failed : Bool)
  | verifying (held : HeldWork) (event : ReadEvent) (rest : List String)
  | renewing (held : HeldWork) (event : Option ReadEvent)
  | completing (held : HeldWork) (event : Option ReadEvent)
  | abandoning (held : HeldWork) (terminal : Bool)
  | failing (held : HeldWork) (terminal : Bool)
  | ended
  deriving DecidableEq, Repr

/-- A job of the queue: a delivery's work id, or the envelope of an earlier release. -/
inductive QueueJob
  | work (id : Nat)
  | envelope (event : ReadEvent) (valid : Bool)
  deriving DecidableEq, Repr

/-- One run of a worker's handler: the worker's release, the work and the fact it is about, whether
its session is alive, and where it is. -/
structure Dispatch where
  release : Release
  workId : Option Nat
  organizationId : String
  subjectId : String
  connected : Bool
  step : DispatchStep
  deriving DecidableEq, Repr

/-- Where an error leaves a dispatch: a delivery is failed, an envelope is not. -/
def DispatchStep.raised (held : Option HeldWork) (terminal : Bool) : DispatchStep :=
  match held with
  | some held => .abandoning held terminal
  | none => .ended

/-- Where a dispatch goes on when every consumer has had the fact. -/
def Release.afterConsumers (release : Release) (held : Option HeldWork) (event : ReadEvent) :
    DispatchStep :=
  match held with
  | some held => .verifying held event (release.required event.eventType)
  | none => .ended

/-- The envelope dispatcher up to its consumers. Whether the payload is well formed is up to the
schema registry. -/
def Release.dispatch (release : Release) (held : Option HeldWork) (event : ReadEvent)
    (valid : Bool) : DispatchStep :=
  if valid = false then .raised held true
  else if release.listFor event.eventType = [] then
    if release.durableConsumersFor event.eventType = [] then release.afterConsumers held event
    else .raised held false
  else .checking held event (release.listFor event.eventType) false

/-- What the execution policy says to a consumer. -/
inductive GateOutcome
  | allow
  | denyTerminal
  | denyRetry
  deriving DecidableEq, Repr

/-- What a worker does next in a dispatch. -/
inductive DispatchAction
  | acquire
  | claim (token : Nat) (now : Int)
  | read (valid : Bool)
  | check
  | decide (outcome : GateOutcome)
  | handle (succeeded : Bool)
  | verify
  | renew (now : Int)
  | complete (now : Int)
  | fail (now : Int)
  /-- A statement of this step raises. -/
  | raise
  /-- The session that holds the lock is lost while the worker goes on. -/
  | disconnect
  | crash
  deriving DecidableEq, Repr

/-! ## The store and its parties -/

/-- The outbox, the receipts, the delivery rows of the work ledger, the queue, the workers' dispatches
and the release that is deployed. -/
structure DeliveryState where
  events : List OutboxEvent
  receipts : List ConsumerReceipt
  items : List WorkItem
  queue : List QueueJob
  dispatches : List Dispatch
  release : Release
  deriving DecidableEq, Repr

/-- Whether a fact is stored. -/
def DeliveryState.stores (state : DeliveryState) (eventId : String) : Bool :=
  state.events.any fun event ↦ decide (event.id = eventId)

/-- Whether a dispatch holds the session lock of a delivery. -/
def Dispatch.locks (dispatch : Dispatch) (id : Nat) : Bool :=
  dispatch.connected && decide (dispatch.workId = some id) &&
    decide (dispatch.step ≠ .resolved ∧ dispatch.step ≠ .ended)

/-- Whether the session lock of a delivery is held. -/
def DeliveryState.locked (state : DeliveryState) (id : Nat) : Bool :=
  state.dispatches.any fun dispatch ↦ dispatch.locks id

/-- The unfenced fact of an organization with an id. -/
def DeliveryState.readEvent (state : DeliveryState) (organizationId eventId : String) :
    Option OutboxEvent :=
  state.events.find? fun event ↦ decide (event.organizationId = organizationId ∧
    event.id = eventId ∧ event.recoveryFencedAt = none)

/-- The row a claim of a dispatch takes. -/
def DeliveryState.claimed (state : DeliveryState) (dispatch : Dispatch) (token : Nat)
    (now : Int) : Option WorkItem :=
  (state.items.find? fun row ↦ decide (row.organizationId = dispatch.organizationId ∧
    dispatch.workId = some row.id)).bind fun row ↦ row.claim outboxDeliveryLeaseMs token now

/-- Whether a renewal finds the delivery under its token. -/
def DeliveryState.renews (state : DeliveryState) (held : HeldWork) : Bool :=
  state.items.any fun row ↦ decide (row.organizationId = held.organizationId ∧ row.id = held.id ∧
    row.state = .running ∧ row.leaseToken = some held.token)

/-- What an action does to the work ledger. -/
def Dispatch.ledgerEvent (dispatch : Dispatch) (action : DispatchAction) : Option WorkEvent :=
  match action, dispatch.step, dispatch.workId with
  | .claim token now, .claiming, some id =>
      some (.claim dispatch.organizationId id outboxDeliveryLeaseMs token now)
  | .renew now, .renewing held _, _ | .renew now, .abandoning held _, _ =>
      some (.renew held.organizationId held.id held.token outboxDeliveryLeaseMs now)
  | .complete now, .completing held _, _ =>
      some (.complete held.organizationId held.id held.token now)
  | .fail now, .failing held terminal, _ =>
      some (.fail held.organizationId held.id held.token
        (some (now + deliveryRetryDelayMs held.attempts)) terminal now)
  | _, _, _ => none

/-- The receipt an action leaves: a denial for good is recorded as obsolete. -/
def Dispatch.denialReceipt (dispatch : Dispatch) (action : DispatchAction) :
    Option ConsumerReceipt :=
  match action, dispatch.step with
  | .decide .denyTerminal, .deciding _ event consumer _ _ => some ⟨event.id, consumer, .obsolete⟩
  | _, _ => none

/-- Where an action leaves a dispatch. An action that is not its next one leaves it where it is. -/
def DeliveryState.nextStep (state : DeliveryState) (dispatch : Dispatch)
    (action : DispatchAction) : DispatchStep :=
  match action, dispatch.step with
  | .acquire, .resolved =>
      if (dispatch.workId.any fun id ↦ state.locked id) = true then .ended else .claiming
  | .claim token now, .claiming =>
      match state.claimed dispatch token now with
      | some row => .reading ⟨row.organizationId, row.id, row.subjectId, token, row.attempts⟩
      | none => .ended
  | .read valid, .reading held =>
      match state.readEvent held.organizationId held.subjectId with
      | some event => dispatch.release.dispatch (some held) ⟨event.id, event.eventType⟩ valid
      | none => .renewing held none
  | .check, .checking held event [] failed =>
      if failed = true then .raised held false else dispatch.release.afterConsumers held event
  | .check, .checking held event (consumer :: rest) failed =>
      if hasReceipt state.receipts event.id consumer = true then .checking held event rest failed
      else .deciding held event consumer rest failed
  | .decide .allow, .deciding held event consumer rest failed =>
      .handling held event consumer rest failed
  | .decide .denyTerminal, .deciding held event _ rest failed =>
      -- The receipt refers to the stored fact: without one the insert raises.
      .checking held event rest (failed || !state.stores event.id)
  | .decide .denyRetry, .deciding held _ _ _ _ => .raised held false
  | .handle succeeded, .handling held event _ rest failed =>
      .checking held event rest (failed || !succeeded)
  | .verify, .verifying held event [] => .renewing held (some event)
  | .verify, .verifying held event (name :: rest) =>
      if hasReceipt state.receipts event.id name = true then .verifying held event rest
      else .abandoning held false
  | .renew _, .renewing held event =>
      if state.renews held = true then .completing held event else .abandoning held false
  | .renew _, .abandoning held terminal => .failing held terminal
  | .complete _, .completing _ _ => .ended
  | .fail _, .failing _ _ => .ended
  -- A consumer's error is kept apart; any other error fails the delivery.
  | .raise, .checking held event (_ :: rest) _ => .checking held event rest true
  | .raise, .deciding held event _ rest _ => .checking held event rest true
  | .raise, .handling held event _ rest _ => .checking held event rest true
  | .raise, .reading held => .abandoning held false
  | .raise, .verifying held _ _ => .abandoning held false
  | .raise, .renewing held _ => .abandoning held false
  | .raise, .completing held _ => .abandoning held false
  | .raise, .resolved | .raise, .claiming | .raise, .abandoning _ _ | .raise, .failing _ _ => .ended
  | .crash, _ => .ended
  | _, step => step

/-- A dispatch takes its next step: it acts on the ledger and on the receipts, and goes on. -/
def DeliveryState.act (state : DeliveryState) (index : Nat) (action : DispatchAction) :
    DeliveryState :=
  match state.dispatches[index]? with
  | none => state
  | some dispatch =>
      { state with
        items := ((dispatch.ledgerEvent action).map fun event ↦ event.run state.items).getD
          state.items
        receipts := ((dispatch.denialReceipt action).map fun receipt ↦
          if state.stores receipt.eventId = true then insertReceipt state.receipts receipt
          else state.receipts).getD state.receipts
        dispatches := state.dispatches.set index { dispatch with
          step := state.nextStep dispatch action
          connected := dispatch.connected && decide (action ≠ .disconnect) } }

/-- A poll admits a fact it has locked, unless another worker has: one turn of the loop of
`schedulePending`. -/
def DeliveryState.admitWork (state : DeliveryState) (event : PendingEvent) (id : Nat) (now : Int) :
    DeliveryState :=
  if state.stores event.id = true ∧ admittedElsewhere state.items event = false then
    match scheduleWork state.items (event.request now) id now with
    | .error _ => state
    | .ok (items, _) =>
        { state with
          items := items
          events := state.events.map fun row ↦ if row.id = event.id then row.admitted now else row }
  else state

/-- A worker takes a job, which the queue may hand out again. -/
def DeliveryState.start (state : DeliveryState) (job : QueueJob) (release : Release) :
    DeliveryState :=
  if job ∈ state.queue then
    match job with
    | .work id =>
        match state.items.find? fun row ↦ decide (row.id = id) with
        | none => state
        | some row =>
            if row.kind ≠ outboxDeliveryKind then state
            else { state with
              dispatches := state.dispatches ++
                [⟨release, some id, row.organizationId, row.subjectId, true, .resolved⟩] }
    | .envelope event valid =>
        { state with
          dispatches := state.dispatches ++
            [⟨release, none, "", event.id, true, release.dispatch none event valid⟩] }
  else state

/-- What happens to the store: source commands, retention, the recovery fence and the relay of an
earlier release; polls, the queue and dispatches; receipts that consumers commit; lease expiry,
re-dispatch and operators; and deployments. -/
inductive DeliveryEvent
  | insert (id eventType organizationId : String)
  | remove (id : String)
  | fence (now : Int)
  | earlierRelay (id : String) (publishedAt leaseExpiresAt : Option Int)
  | admitWork (event : PendingEvent) (expected : List (String × String)) (id : Nat) (now : Int)
  | enqueue (job : QueueJob)
  | lose (job : QueueJob)
  | start (job : QueueJob) (release : Release)
  | act (index : Nat) (action : DispatchAction)
  | leaveReceipt (receipt : ConsumerReceipt)
  | expireLeases (available : Nat → Bool) (now : Int)
  | dispatchDue (picked : Nat → Bool) (cutoff now : Int)
  | operate (organizationId : String) (id : Nat) (action : OperatorAction)
      (operatorId reason : String) (now : Int)
  | deploy (release : Release)

/-- The state an event leaves. -/
def DeliveryEvent.run (state : DeliveryState) : DeliveryEvent → DeliveryState
  | .insert id eventType organizationId =>
      { state with events := ⟨id, eventType, organizationId, none, none, none⟩ :: state.events }
  | .remove id =>
      -- Receipts leave with their fact.
      { state with
        events := state.events.filter fun event ↦ decide (event.id ≠ id)
        receipts := state.receipts.filter fun receipt ↦ decide (receipt.eventId ≠ id) }
  | .fence now =>
      { state with
        events := state.events.map fun event ↦
          if event.publishedAt = none ∧ event.recoveryFencedAt = none then
            { event with recoveryFencedAt := some now, leaseExpiresAt := none }
          else event }
  | .earlierRelay id publishedAt leaseExpiresAt =>
      { state with
        events := state.events.map fun event ↦
          if event.id = id then
            { event with
              publishedAt := event.publishedAt.or publishedAt
              leaseExpiresAt := leaseExpiresAt }
          else event }
  | .admitWork event _ id now => state.admitWork event id now
  | .enqueue job => { state with queue := job :: state.queue }
  | .lose job => { state with queue := state.queue.erase job }
  | .start job release => state.start job release
  | .act index action => state.act index action
  | .leaveReceipt receipt =>
      if state.stores receipt.eventId = true then
        { state with receipts := insertReceipt state.receipts receipt }
      else state
  | .expireLeases available now =>
      { state with
        items := (WorkEvent.expireLeases (fun id ↦ available id && !state.locked id) now).run
          state.items }
  | .dispatchDue picked cutoff now =>
      { state with items := (WorkEvent.dispatchDue picked cutoff now).run state.items }
  | .operate organizationId id action operatorId reason now =>
      { state with
        items := (WorkEvent.operate organizationId id action operatorId reason now).run
          state.items }
  | .deploy release => { state with release := release }

end ReputationKey.Shared
