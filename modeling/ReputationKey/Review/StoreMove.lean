import ReputationKey.Review.ObservationStore
import ReputationKey.Review.SourceFence

/-!
# The moves a store makes

Every transaction on the rows of one reply is a sequence of eight kinds of move. A move says what
the transaction read of the reply row and exactly what it wrote to the reply, its attempts and its
authorizations, so that an invariant of the rows is proved once for each kind of move and not once
for each writer. The transactions themselves are the ones of the three store modules.
-/

namespace ReputationKey.Review

/-- Write new contents of the reply row, under the trigger. -/
def Store.writeReply (s : Store) (row new : Reply) : Store :=
  { s with reply := some (applyReplyTrigger row new) }

/-- A reply row with other publication columns. -/
def Reply.withPublication (row : Reply) (status : ReplyStatus) (state : PublicationStateInput)
    (errorClass : Option PublicationFailureClass) (dueAt : Option Int) : Reply :=
  { row with
    status := status
    publicationState := state
    publicationLastErrorClass := errorClass
    reconcileDueAt := dueAt }

/-- Whether a publication state and error class leave the last attempt's outcome unknown. -/
def awaitsOutcome (state : PublicationStateInput) (errorClass : Option PublicationFailureClass) :
    Bool :=
  isUncertainPublicationState state || (state == some .terminal && errorClass == some .ambiguous)

/-- Whether two attempt rows have the same key. -/
def PublicationAttempt.SameKey (a b : PublicationAttempt) : Prop :=
  a.replyId = b.replyId ∧ a.publicationCycle = b.publicationCycle ∧
    a.attemptNumber = b.attemptNumber

/-- What one publication write does to status, publication state and error class. -/
inductive PublicationChange (row : Reply) :
    ReplyStatus → PublicationStateInput → Option PublicationFailureClass → Prop
  | deferred :
      PublicationChange row row.status row.publicationState row.publicationLastErrorClass
  | accepted (read : row.publicationState = some .sending) :
      PublicationChange row row.status (some .pendingObservation) row.publicationLastErrorClass
  | requeued (approved : row.status = .approved) (read : row.publicationState = some .sending) :
      PublicationChange row row.status (some .authorized) row.publicationLastErrorClass
  | failed (errorClass : PublicationFailureClass)
      (read : row.publicationState = some .requested ∨ row.publicationState = some .authorized ∨
        row.publicationState = some .sending ∨ row.publicationState = some .ambiguous) :
      PublicationChange row .publishFailed (some .terminal) (some errorClass)
  | uncertain (read : row.publicationState = some .sending ∨
      row.publicationState = some .pendingObservation) :
      PublicationChange row .publishFailed (some .ambiguous) (some .ambiguous)
  | neverDispatched (read : awaitsOutcome row.publicationState row.publicationLastErrorClass) :
      PublicationChange row .publishFailed (some .terminal) (some .retryable)
  | cancelled (read : isUndispatchedOpenCycle row ∨
      awaitsOutcome row.publicationState row.publicationLastErrorClass) :
      PublicationChange row .draft (some .cancelled) none
  | confirmed (status : isClaimablePublicationStatus row.status)
      (read : isUncertainPublicationState row.publicationState ∨
        row.publicationState = some .terminal) :
      PublicationChange row .published (some .published) row.publicationLastErrorClass
  | takenBack (takenBack : TakenBackByGuestEdit)
      (read : takenBackByGuestEdit row = some takenBack) :
      PublicationChange row takenBack.status takenBack.publicationState none
  | restoreCancelled (read : isUndispatchedOpenCycle row) :
      PublicationChange row row.status (some .cancelled) none
  | restoreUncertain (read : row.publicationState = some .sending) :
      PublicationChange row row.status (some .ambiguous) (some .ambiguous)

/-- What a publication write does to the attempt rows: it sets outcomes, only of rows that share
the key of a current or open attempt, and leaves a current attempt open only when the reply awaits
its outcome, when it was open before with nothing awaiting it, or beside another such row. -/
structure SettlesAttempts (s : Store) (row : Reply) (selects : PublicationAttempt → Bool)
    (set : PublicationAttempt → PublicationAttempt) (awaits : Bool) : Prop where
  keepsEvidence : ∀ a, set a =
    { a with
      outcome := (set a).outcome
      confirmedObservationRevision := (set a).confirmedObservationRevision }
  selected : ∀ a ∈ s.attempts, selects a →
    ∃ b ∈ s.attempts, a.SameKey b ∧ (b.isCurrentOf row ∨ isOpenAttemptOutcome b.outcome)
  leavesOpen : ∀ a ∈ s.attempts, a.isCurrentOf row →
    isOpenAttemptOutcome (if selects a then set a else a).outcome →
    awaits ∨ a.attemptNumber = 0 ∨
      (isOpenAttemptOutcome a.outcome ∧
        ¬ awaitsOutcome row.publicationState row.publicationLastErrorClass) ∨
      ∃ b ∈ s.attempts, b ≠ a ∧ (b.isCurrentOf row ∨ isOpenAttemptOutcome b.outcome)

/-- The reply row an authorization leaves. -/
def authorizedReply (row : Reply) (text : Text) (aiGenerated : Bool) (cycle : Nat)
    (occurredAt : Int) : Reply :=
  { row with
    text := text
    aiGenerated := aiGenerated
    status := .approved
    publicationState := some .authorized
    publicationCycle := cycle
    publicationAttempts := 0
    publicationLastErrorClass := none
    reconcileDueAt := some (occurredAt + publicationRecoveryReconcileDelayMs) }

/-- The authorization row written with it. -/
def authorizationRow (platform : Platform) (intent : PublicationIntent) (saved : Reply)
    (occurredAt : Int) : PublicationAuthorization :=
  { replyId := saved.id
    propertyId := intent.propertyId
    publicationCycle := saved.publicationCycle
    sourceEpoch := intent.sourceEpoch
    materialReviewRevision := intent.materialReviewRevision
    baseObservationRevision := intent.baseObservationRevision
    authorizedByUserId := intent.userId
    replyStateRevision := saved.stateRevision
    expectedReplyDigest := platform.googleReplyTextDigest saved.text
    authorizedAt := occurredAt }

/-- The reply row a claim leaves. -/
def claimedReply (row : Reply) (now : Int) : Reply :=
  { row with
    publicationState := some .sending
    publicationAttempts := row.publicationAttempts + 1
    reconcileDueAt := some (now + publicationRecoveryReconcileDelayMs) }

/-- Who makes a move: the author of a new draft with the identifier it brings, a manager with a
command, a publish worker, the source of the review, a read of the reply on Google, or a sweep or
purge. -/
inductive Actor
  | author (newId : Nat)
  | manager (command : ReplyCommand)
  | worker
  | source
  | reader
  | system
  deriving DecidableEq, Repr

/-- One move of a transaction on the rows of a reply. -/
inductive StoreMove (platform : Platform) (actor : Actor) (s : Store) : Store → Prop
  | told (facts : List Fact) : StoreMove platform actor s { s with facts := facts }
  | observed (observations : List GoogleReplyObservation)
      (isReader : actor = .reader ∨ (actor = .source ∧
        observations.map (·.observationRevision) = s.observations.map (·.observationRevision)))
      (keeps : s.observations.map (·.observationKey) <:+
        observations.map (·.observationKey)) :
      StoreMove platform actor s { s with observations := observations }
  | reviewed (review : ReviewRow) (isSource : actor = .source) :
      StoreMove platform actor s { s with review := review }
  | create (row : Reply) (isAuthor : actor = .author row.id) (absent : s.reply = none)
      (isDraft : row.status = .draft) (hasNoState : row.publicationState = none)
      (hasNoCycle : row.publicationCycle = 0) :
      StoreMove platform actor s { s with reply := some row }
  | delete (row : Reply) (present : s.reply = some row) (never : row.publicationState = none) :
      StoreMove platform actor s { s with reply := none }
  | rewrite (row : Reply) (text : Text) (status : ReplyStatus) (aiGenerated : Bool)
      (origin : Option Nat) (present : s.reply = some row)
      (read : row.status = .draft ∨ row.status = .rejected ∨ row.status = .pendingApproval)
      (written : status = .draft ∨ status = .rejected ∨
        (status = .pendingApproval ∧ actor = .manager .submit))
      (authorship : aiGenerated = row.aiGenerated ∨ aiGenerated = true ∨
        row.publicationState = none ∨ row.publicationState = some .cancelled) :
      StoreMove platform actor s (s.writeReply row
        { row with
          text := text
          status := status
          aiGenerated := aiGenerated
          originOperationId := origin })
  | authorize (row : Reply) (command : ReplyCommand) (intent : PublicationIntent) (text : Text)
      (aiGenerated : Bool) (occurredAt : Int) (present : s.reply = some row)
      (isManager : actor = .manager command)
      (authorizes : command = .approve ∨ command = .retryPublication ∨ command = .editPublished)
      (start : replyCommandMayStart command row)
      (property : s.review.propertyId = intent.propertyId)
      (fence : authorizationFenceIsCurrent intent s)
      (cycle : intent.publicationCycle = row.publicationCycle + 1)
      (unedited : command ≠ .editPublished → text = row.text ∧ aiGenerated = row.aiGenerated)
      (edited : command = .editPublished → aiGenerated = false)
      (fresh : s.authorizationOf row.id (row.publicationCycle + 1) = none) :
      StoreMove platform actor s
        { s.writeReply row
            (authorizedReply row text aiGenerated (row.publicationCycle + 1) occurredAt) with
          authorizations :=
            authorizationRow platform intent
              (applyReplyTrigger row
                (authorizedReply row text aiGenerated (row.publicationCycle + 1) occurredAt))
              occurredAt :: s.authorizations }
  | claim (row : Reply) (attempt : PublicationAttempt) (now : Int) (present : s.reply = some row)
      (isWorker : actor = .worker) (approved : row.status = .approved) (read : row.publicationState = some .authorized)
      (key : attempt.isCurrentOf (claimedReply row now))
      (isSending : attempt.outcome = .sending)
      (fresh : ∀ a ∈ s.attempts, ¬ a.isCurrentOf (claimedReply row now)) :
      StoreMove platform actor s
        { s.writeReply row (claimedReply row now) with attempts := attempt :: s.attempts }
  | publication (row : Reply) (status : ReplyStatus) (state : PublicationStateInput)
      (errorClass : Option PublicationFailureClass) (dueAt : Option Int)
      (selects : PublicationAttempt → Bool) (set : PublicationAttempt → PublicationAttempt)
      (present : s.reply = some row) (change : PublicationChange row status state errorClass)
      (settles : SettlesAttempts s row selects set (awaitsOutcome state errorClass)) :
      StoreMove platform actor s
        ((s.writeReply row (row.withPublication status state errorClass dueAt)).setAttempts
          selects set)
  | withdraw (row : Reply) (present : s.reply = some row) (isAi : row.aiGenerated)
      (undispatched : isUndispatchedOpenCycle row ∨ isBackAfterCancelledCycle row)
      (selects : PublicationAttempt → Bool)
      (selected : ∀ a ∈ s.attempts, selects a → a.isCurrentOf row) :
      StoreMove platform actor s
        ((s.writeReply row (emptiedByWithdrawal row)).setAttempts selects
          (PublicationAttempt.settle .superseded))

/-- A transaction as the moves it makes, in order. -/
abbrev StoreMoves (platform : Platform) (actor : Actor) : Store → Store → Prop :=
  Relation.ReflTransGen (StoreMove platform actor)

/-- A publication write never clears the publication state. -/
theorem PublicationChange.hasState {row : Reply} {status : ReplyStatus} {state : PublicationStateInput}
    {errorClass : Option PublicationFailureClass}
    (change : PublicationChange row status state errorClass)
    (h : row.publicationState ≠ none) : state ≠ none := by
  cases change with
  | deferred => exact h
  | takenBack takenBack read =>
      unfold takenBackByGuestEdit at read
      split at read
      · cases read
      · split at read
        · cases read
          simp
        · split at read
          · cases read
          · cases read
            simp
  | _ => simp

section Moves

variable {platform : Platform} {actor : Actor} {s s' : Store}

/-- Recording a fact is a move. -/
theorem StoreMoves.record (h : StoreMoves platform actor s s') (fact : Fact) :
    StoreMoves platform actor s (s'.record fact) :=
  h.tail (.told (fact :: s'.facts))

/-- Recording a caller's fact is a move, or none. -/
theorem StoreMoves.recordOptional (h : StoreMoves platform actor s s') (fact : Option Fact) :
    StoreMoves platform actor s (s'.recordOptional fact) := by
  cases fact with
  | none => exact h
  | some fact => exact h.record fact

/-- A write that selects no attempt row leaves the attempts as they were. -/
@[simp] theorem Store.setAttempts_false (s : Store)
    (set : PublicationAttempt → PublicationAttempt) : s.setAttempts (fun _ ↦ false) set = s := by
  simp [Store.setAttempts]

/-- Setting the outcome of the current attempt is sound when an open outcome is awaited. -/
theorem settlesAttempts_current {row : Reply} {selects : PublicationAttempt → Bool}
    {set : PublicationAttempt → PublicationAttempt} {awaits : Bool}
    (isCurrent : ∀ a, selects a = a.isCurrentOf row)
    (keepsEvidence : ∀ a, set a =
      { a with
        outcome := (set a).outcome
        confirmedObservationRevision := (set a).confirmedObservationRevision })
    (leavesOpen : ∀ a, isOpenAttemptOutcome (set a).outcome → awaits) :
    SettlesAttempts s row selects set awaits where
  keepsEvidence := keepsEvidence
  selected a ha hsel := ⟨a, ha, ⟨rfl, rfl, rfl⟩, Or.inl (isCurrent a ▸ hsel)⟩
  leavesOpen a ha hcurrent hopen := by
    rw [if_pos ((isCurrent a).trans hcurrent)] at hopen
    exact Or.inl (leavesOpen a hopen)

/-- An attempt update with no outcome list selects the current attempt. -/
@[simp] theorem isCurrentIn_none (row : Reply) (a : PublicationAttempt) :
    a.isCurrentIn row none = a.isCurrentOf row := by
  simp [PublicationAttempt.isCurrentIn]

/-- A write with no attempt update settles the attempts of a cycle nobody claimed. -/
theorem settlesAttempts_unclaimed {row : Reply} {awaits : Bool}
    {set : PublicationAttempt → PublicationAttempt} (keepsEvidence : ∀ a, set a =
      { a with
        outcome := (set a).outcome
        confirmedObservationRevision := (set a).confirmedObservationRevision })
    (unclaimed : row.publicationAttempts = 0) :
    SettlesAttempts s row (fun _ ↦ false) set awaits where
  keepsEvidence := keepsEvidence
  selected a _ hsel := by cases hsel
  leavesOpen a _ hcurrent _ := by
    simp only [PublicationAttempt.isCurrentOf, Bool.and_eq_true, beq_iff_eq] at hcurrent
    exact Or.inr (Or.inl (hcurrent.2.trans unclaimed))

/-- A write with no attempt update is sound when the reply awaits exactly what it did before. -/
theorem settlesAttempts_untouched {row : Reply} {awaits : Bool}
    (keeps : awaitsOutcome row.publicationState row.publicationLastErrorClass → awaits) :
    SettlesAttempts s row (fun _ ↦ false) (PublicationAttempt.settle .superseded) awaits where
  keepsEvidence _ := rfl
  selected a _ hsel := by cases hsel
  leavesOpen a _ _ hopen := by
    by_cases hawaits : awaitsOutcome row.publicationState row.publicationLastErrorClass
    · exact Or.inl (keeps hawaits)
    · exact Or.inr (Or.inr (Or.inl ⟨by simpa using hopen, hawaits⟩))

/-- A matched publication row has the snapshot's identity, pointer and state. -/
theorem publicationSnapshotMatches_iff (row snapshot : Reply) (expectedStatus : ReplyStatus) :
    publicationSnapshotMatches row snapshot expectedStatus ↔
      row.id = snapshot.id ∧ row.status = expectedStatus ∧
        row.stateRevision = snapshot.stateRevision ∧
        row.publicationCycle = snapshot.publicationCycle ∧
        row.publicationState = snapshot.publicationState ∧
        row.publicationAttempts = snapshot.publicationAttempts := by
  simp [publicationSnapshotMatches, and_assoc]

end Moves

end ReputationKey.Review
