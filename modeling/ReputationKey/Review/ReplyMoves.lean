import ReputationKey.Review.ObservationStore
import ReputationKey.Review.Oracle
import ReputationKey.Review.ReplyComment
import ReputationKey.Review.SourceFence
import ReputationKey.Review.StoreSpec

/-!
# What each production rule leaves of a reply row

The commands and publication events as moves of one row and the outcome of the attempt it points
at: the start condition, the AI text rule, the publication table and the compare-and-set of the
store's write, which the row a caller has just read always meets. The stores are tied to these
moves at the end. Follows the use cases of
`src/src/contexts/review/application/use-cases/reply-operations.ts:381–870` and the question the
model test asks of production,
`src/src/contexts/review/domain/reply-workflow.property.test.ts:182–222`.
-/

namespace ReputationKey.Review

open Oracle (ManagerCommand PublicationEvent ReplyOnScreen AiDraftPurgeScope)

/-- A reply row with the outcome of the attempt it points at, if its cycle has one. -/
structure ReplyInPublication where
  row : Reply
  outcome : Option AttemptOutcome
  deriving DecidableEq, Repr

/-- What the transactions read outside the reply: the AI binding, the dispatch evidence, the
earlier claims of the text, the identifiers of new rows and the clock. -/
structure Circumstances where
  provablyNeverSent : Bool
  bindingIsCurrent : Bool
  inputsAreCurrent : Bool
  textClaimedBefore : Bool
  newId : Nat
  operationId : Nat
  now : Int
  deriving DecidableEq, Repr

/-- What a guarded command leaves of the row it read. -/
def commandRow (row : Reply) (command : ReplyCommand) (bindingIsCurrent : Bool)
    (updates : Reply → Reply) : Option Reply :=
  if !replyCommandMayStart command row then
    none
  else if aiTextRuleOf command = .needsCurrentBinding ∧
      !aiTextMayAdvance row bindingIsCurrent then
    none
  else
    some (applyReplyTrigger row (replySetClause command updates row))

/-- What a guarded publication write leaves of the row it read. -/
def publicationRow (row : Reply) (expectedStatus : ReplyStatus)
    (allowedStates : List PersistedPublicationState) (set : Reply → Reply) : Option Reply :=
  if row.publicationState.any allowedStates.contains && row.status == expectedStatus then
    some (applyReplyTrigger row (set row))
  else
    none

/-- What a transition of the publication table leaves of the row it read. -/
def transitionRow (row : Reply) (event : PublicationStateEvent)
    (allowedStates : List PersistedPublicationState)
    (set : PersistedPublicationState → Reply → Reply) : Option Reply :=
  (nextPublicationState row.publicationState event).bind fun target ↦
    publicationRow row row.status allowedStates (set target)

/-! ## Commands -/

/-- A new draft as the stores insert it. -/
def draftRow (newId : Nat) (text : Text) (aiGenerated : Bool) (originOperationId : Option Nat) :
    Reply :=
  { id := newId
    text := text
    status := .draft
    aiGenerated := aiGenerated
    originOperationId := originOperationId
    stateRevision := 1
    publicationState := none
    publicationCycle := 0
    publicationAttempts := 0
    publicationLastErrorClass := none
    reconcileDueAt := none }

/-- The set clause of an authorizing write. -/
def authorizedSet (cycle : Nat) (occurredAt : Int) (updates : Reply → Reply) (row : Reply) :
    Reply :=
  { updates row with
    publicationState := some .authorized
    publicationCycle := cycle
    publicationAttempts := 0
    publicationLastErrorClass := none
    reconcileDueAt := some (occurredAt + publicationRecoveryReconcileDelayMs) }

/-- Approval and retry of the row as it stands. -/
def authorizeRow (row : Reply) (command : ReplyCommand) (circumstances : Circumstances) :
    Option ReplyInPublication :=
  if nextPublicationState row.publicationState .authorize = none ∨
      replyCommentProblem row.text ≠ none then
    none
  else
    (commandRow row command circumstances.bindingIsCurrent
      (authorizedSet (row.publicationCycle + 1) circumstances.now
        fun row ↦ { row with status := .approved })).map (⟨·, none⟩)

/-- Proof that the attempt never left settles it as a retryable failure. -/
def settleRow (reply : ReplyInPublication) (provablyNeverSent : Bool) :
    Option ReplyInPublication :=
  if (uncertainSnapshotFor reply.row neverDispatchedSettleable).isNone ∨
      reply.row.publicationCycle < 1 ∨ reply.row.publicationAttempts < 1 ∨
      !reply.outcome.any uncertainAttemptOutcomes.contains ∨ !provablyNeverSent then
    none
  else
    some
      ⟨applyReplyTrigger reply.row
        { reply.row with
          status := .publishFailed
          publicationState := some .terminal
          publicationLastErrorClass := some .retryable
          reconcileDueAt := none }, some .retryableFailure⟩

/-- Whether a retry must first prove that the attempt never left. -/
def requiresPositiveReconciliation (row : Reply) : Bool :=
  row.publicationState == some .ambiguous || endedWithoutAnAnswer row

/-- Try publishing again. -/
def retryRow (reply : ReplyInPublication) (circumstances : Circumstances) :
    Option ReplyInPublication :=
  if reply.row.status = .published ∧ reply.row.publicationState = some .published then some reply
  else if requiresPositiveReconciliation reply.row then
    (settleRow reply circumstances.provablyNeverSent).bind fun settled ↦
      authorizeRow settled.row .retryPublication circumstances
  else authorizeRow reply.row .retryPublication circumstances

/-- Edit a published reply and republish it; the same text changes nothing. -/
def editRow (reply : ReplyInPublication) (typed : Text) (circumstances : Circumstances) :
    Option ReplyInPublication :=
  let text := trim typed
  if replyCommentProblem text ≠ none ∨ !replyCommandMayStart .editPublished reply.row then none
  else if text = reply.row.text then some reply
  else
    (commandRow reply.row .editPublished true
      (authorizedSet (reply.row.publicationCycle + 1) circumstances.now
        fun row ↦ { row with text := text, status := .approved })).map (⟨·, none⟩)

/-- A manager command against the reply as it is stored; `none` when it is refused. -/
def productionCommand (state : Option ReplyInPublication) (command : ManagerCommand)
    (circumstances : Circumstances) : Option (Option ReplyInPublication) :=
  match command, state with
  | .draft text, none =>
      if replyCommentProblem text ≠ none then none
      else some (some ⟨draftRow circumstances.newId text false none, none⟩)
  | .draft text, some reply =>
      if replyCommentProblem text ≠ none then none
      else
        (commandRow reply.row .saveDraft true fun row ↦
          { row with text := text, status := .draft }).map fun saved ↦ some ⟨saved, reply.outcome⟩
  | .adoptAi text, none =>
      if replyCommentProblem text ≠ none then none
      else some
        (some ⟨draftRow circumstances.newId text true (some circumstances.operationId), none⟩)
  | .adoptAi text, some reply =>
      if replyCommentProblem text ≠ none then none
      else if reply.row.status = .draft ∨ reply.row.status = .rejected then
        some (some
          ⟨applyReplyTrigger reply.row
            { reply.row with
              text := text
              status := .draft
              aiGenerated := true
              originOperationId := some circumstances.operationId }, reply.outcome⟩)
      else none
  | _, none => none
  | .submit, some reply =>
      if replyCommentProblem reply.row.text ≠ none then none
      else
        (commandRow reply.row .submit circumstances.bindingIsCurrent fun row ↦
          { row with status := .pendingApproval }).map fun saved ↦ some ⟨saved, reply.outcome⟩
  | .approve onScreen, some reply =>
      if onScreen.id ≠ reply.row.id ∨ onScreen.revision ≠ reply.row.stateRevision then none
      else (authorizeRow reply.row .approve circumstances).map some
  | .reject, some reply =>
      (commandRow reply.row .reject true fun row ↦ { row with status := .rejected }).map
        fun saved ↦ some ⟨saved, reply.outcome⟩
  | .retry, some reply => (retryRow reply circumstances).map some
  | .edit text, some reply => (editRow reply text circumstances).map some
  | .delete, some reply => if replyCommandMayStart .delete reply.row then some none else none

/-! ## Publication events -/

/-- End the cycle as failed. -/
def terminalRow (reply : ReplyInPublication) (errorClass : PublicationFailureClass) :
    Option ReplyInPublication :=
  (transitionRow reply.row .failTerminal [.requested, .authorized, .sending, .ambiguous]
    fun target row ↦
      { row with
        status := .publishFailed
        publicationState := some target
        publicationLastErrorClass := some errorClass
        reconcileDueAt := none }).map fun saved ↦
    ⟨saved, if saved.publicationAttempts < 1 then reply.outcome
      else some (terminalAttemptOutcome errorClass)⟩

/-- Whether the reply points at an attempt whose outcome is still open. -/
def ReplyInPublication.hasOpenAttempt (reply : ReplyInPublication) : Bool :=
  reply.outcome.any isOpenAttemptOutcome

/-- Google shows exactly the text the open attempt wrote. -/
def confirmRow (reply : ReplyInPublication) : Option ReplyInPublication :=
  if reply.hasOpenAttempt && isClaimablePublicationStatus reply.row.status &&
      (isUncertainPublicationState reply.row.publicationState ||
        reply.row.publicationState == some .terminal) then
    some
      ⟨applyReplyTrigger reply.row
        { reply.row with
          status := .published
          publicationState := some .published
          reconcileDueAt := none }, some .confirmed⟩
  else
    none

/-- Google shows another reply: it closes an open attempt, or an authorization with no attempt. -/
def supersedeRow (reply : ReplyInPublication) : Option ReplyInPublication :=
  if reply.hasOpenAttempt && isClaimablePublicationStatus reply.row.status &&
      (isUncertainPublicationState reply.row.publicationState ||
        endedWithoutAnAnswer reply.row) then
    some ⟨applyReplyTrigger reply.row (cancelledReplySet reply.row), some .superseded⟩
  else if reply.row.status == .approved && reply.row.publicationState == some .authorized &&
      reply.row.publicationAttempts == 0 then
    some ⟨applyReplyTrigger reply.row (cancelledReplySet reply.row), reply.outcome⟩
  else
    none

/-- A publication event against the reply as it is stored; `none` when it does not apply. -/
def productionEvent (reply : ReplyInPublication) (circumstances : Circumstances) :
    PublicationEvent → Option ReplyInPublication
  | .cancel =>
      (cancelledPublication reply.row).bind fun cancellation ↦
        (publicationRow reply.row reply.row.status
          [.requested, .authorized, .sending, .pendingObservation] cancellation).map fun saved ↦
          ⟨saved, if 0 < saved.publicationAttempts then some .superseded else reply.outcome⟩
  | .claim =>
      if nextPublicationState reply.row.publicationState .claim = none ∨
          !(aiTextMayAdvance reply.row circumstances.bindingIsCurrent ||
            (circumstances.inputsAreCurrent && circumstances.textClaimedBefore)) then
        none
      else
        (publicationRow reply.row .approved [.authorized] fun row ↦
          { row with
            publicationState := some .sending
            publicationAttempts := row.publicationAttempts + 1
            reconcileDueAt := some (circumstances.now + publicationRecoveryReconcileDelayMs)
          }).map (⟨·, some .sending⟩)
  | .providerAccepted =>
      (transitionRow reply.row .providerAccepted [.sending] fun target row ↦
        { row with
          publicationState := some target
          reconcileDueAt := some (circumstances.now + providerObservationReconcileDelayMs)
        }).map (⟨·, some .providerOutcomePending⟩)
  | .requeue =>
      (nextPublicationState reply.row.publicationState .requeue).bind fun target ↦
        (publicationRow reply.row .approved [.sending] fun row ↦
          { row with
            publicationState := some target
            reconcileDueAt := some (circumstances.now + publicationRecoveryReconcileDelayMs)
          }).map (⟨·, some .retryableFailure⟩)
  | .failNotSent => terminalRow reply .retryable
  | .failRejected => terminalRow reply .terminalRejection
  | .failUnknown =>
      (transitionRow reply.row .failAmbiguous [.sending, .pendingObservation] fun target row ↦
        { row with
          status := .publishFailed
          publicationState := some target
          publicationLastErrorClass := some .ambiguous
          reconcileDueAt := some (circumstances.now + ambiguousReconcileDelayMs)
        }).map (⟨·, some .ambiguous⟩)
  | .confirm => confirmRow reply
  | .settleUnclaimed => terminalRow reply .retryable
  | .settleNeverSent => settleRow reply true
  | .endChecks => terminalRow reply .ambiguous
  | .supersede => supersedeRow reply

/-! ## Withdrawn AI text and guest edits -/

/-- A claim refused for AI text cancels the cycle and withdraws the text. -/
def refusedClaimRow (reply : ReplyInPublication) : Option ReplyInPublication :=
  if !reply.row.aiGenerated then none
  else
    (cancelledPublication reply.row).bind fun cancellation ↦
      (publicationRow reply.row .approved [.authorized] cancellation).map fun saved ↦
        ⟨applyReplyTrigger saved (emptiedByWithdrawal saved),
          if 0 < saved.publicationAttempts then some .superseded else reply.outcome⟩

/-- The AI draft purge of one reply. -/
def purgeRow (state : Option ReplyInPublication) (scope : AiDraftPurgeScope)
    (pastItsWindow : Bool) : Option ReplyInPublication :=
  match state with
  | none => none
  | some reply =>
      if !reply.row.aiGenerated then some reply
      else if scope = .repliesPastTheirWindow ∧ !pastItsWindow then some reply
      else if reply.row.publicationState = none then none
      else if isUndispatchedOpenCycle reply.row then
        some ⟨applyReplyTrigger reply.row (emptiedByWithdrawal reply.row),
          reply.outcome.map fun _ ↦ .superseded⟩
      else if isBackAfterCancelledCycle reply.row then
        some ⟨applyReplyTrigger reply.row (emptiedByWithdrawal reply.row), reply.outcome⟩
      else some reply

/-- What a guest edit takes back of a reply; `none` when it leaves it alone. -/
def guestEditRow (reply : ReplyInPublication) : Option ReplyInPublication :=
  (takenBackByGuestEdit reply.row).map fun takenBack ↦
    ⟨applyReplyTrigger reply.row
      { reply.row with
        status := takenBack.status
        publicationState := takenBack.publicationState
        publicationLastErrorClass := none
        reconcileDueAt := none },
      if takenBack.supersedesAttempt ∧ 1 ≤ reply.row.publicationAttempts then
        reply.outcome.map fun _ ↦ .superseded
      else reply.outcome⟩

/-! ## The stores make these moves -/

section Stores

variable {platform : Platform} {s s' : Store} {row : Reply}

/-- The row a caller has just read meets every comparison of a guarded command. -/
theorem guardedReplyUpdate_self (present : s.reply = some row) (command : ReplyCommand)
    (bindingIsCurrent : Bool) (updates : Reply → Reply) :
    guardedReplyUpdate s row command bindingIsCurrent updates =
      (commandRow row command bindingIsCurrent updates).map fun saved ↦
        ({ s with reply := some saved }, saved) := by
  unfold guardedReplyUpdate commandRow
  split
  · rfl
  · split
    · rfl
    · rw [present]
      have hmatches : replySnapshotMatches row row command := by simp [replySnapshotMatches]
      simp [hmatches]

/-- The row a caller has just read meets every comparison of a guarded publication write but the
status it expects. -/
theorem guardedPublicationUpdate_self (present : s.reply = some row)
    (expectedStatus : ReplyStatus) (allowedStates : List PersistedPublicationState)
    (set : Reply → Reply) :
    guardedPublicationUpdate s row expectedStatus allowedStates set =
      (publicationRow row expectedStatus allowedStates set).map fun saved ↦
        ({ s with reply := some saved }, saved) := by
  unfold guardedPublicationUpdate publicationRow
  cases hstate : row.publicationState with
  | none => simp
  | some state =>
      by_cases hallowed : state ∈ allowedStates
      · by_cases hstatus : row.status = expectedStatus
        · simp [present, publicationSnapshotMatches, hallowed, hstatus, hstate]
        · simp [present, publicationSnapshotMatches, hallowed, hstatus]
      · simp [hallowed]

/-- Recording a fact leaves the reply. -/
@[simp] theorem Store.recordOptional_reply (s : Store) (fact : Option Fact) :
    (s.recordOptional fact).reply = s.reply := by
  cases fact <;> rfl

/-- Updating an attempt leaves the reply. -/
theorem updateCurrentAttempt_reply {reply : Reply}
    {set : PublicationAttempt → PublicationAttempt} {fromOutcomes : Option (List AttemptOutcome)}
    (h : updateCurrentAttempt s reply set fromOutcomes = .ok s') : s'.reply = s.reply := by
  rw [(updateCurrentAttempt_eq_ok h).2]
  rfl

/-- A draft save leaves the row of its move. -/
theorem saveDraft_row (present : s.reply = some row) {text : Text}
    (h : saveDraft s row text = .ok (some s')) :
    commandRow row .saveDraft true (fun row ↦ { row with text := text, status := .draft }) =
      s'.reply := by
  unfold saveDraft at h
  rw [guardedReplyUpdate_self present] at h
  cases hrow : commandRow row .saveDraft true fun row ↦
      { row with text := text, status := .draft } with
  | none => simp [hrow] at h
  | some saved =>
      simp only [hrow, Option.map_some, Except.ok.injEq, Option.some.injEq] at h
      rw [← h]

/-- A submission leaves the row of its move. -/
theorem submitReply_row (present : s.reply = some row) {bindingIsCurrent : Bool}
    (h : submitReply s row bindingIsCurrent = .ok (some s')) :
    commandRow row .submit bindingIsCurrent (fun row ↦ { row with status := .pendingApproval }) =
      s'.reply := by
  unfold submitReply at h
  rw [guardedReplyUpdate_self present] at h
  cases hrow : commandRow row .submit bindingIsCurrent fun row ↦
      { row with status := .pendingApproval } with
  | none => simp [hrow] at h
  | some saved =>
      simp only [hrow, Option.map_some, Except.ok.injEq, Option.some.injEq] at h
      rw [← h]
      rfl

/-- A rejection leaves the row of its move. -/
theorem rejectReply_row (present : s.reply = some row) (h : rejectReply s row = .ok (some s')) :
    commandRow row .reject true (fun row ↦ { row with status := .rejected }) = s'.reply := by
  unfold rejectReply at h
  rw [guardedReplyUpdate_self present] at h
  cases hrow : commandRow row .reject true fun row ↦ { row with status := .rejected } with
  | none => simp [hrow] at h
  | some saved =>
      simp only [hrow, Option.map_some, Except.ok.injEq, Option.some.injEq] at h
      rw [← h]
      rfl

variable {outcome : Option AttemptOutcome} {circumstances : Circumstances}

/-- A committed transition leaves the row of its move. -/
theorem publicationTransition_row (present : s.reply = some row) {event : PublicationStateEvent}
    {allowedStates : List PersistedPublicationState}
    {set : PersistedPublicationState → Reply → Reply}
    {afterWrite : Store → Reply → Except ReviewError Store} {fact : Option Fact}
    (keeps : ∀ written saved settled, afterWrite written saved = .ok settled →
      settled.reply = written.reply)
    (h : publicationTransition s row event allowedStates set afterWrite fact = .ok (some s')) :
    transitionRow row event allowedStates set = s'.reply := by
  unfold publicationTransition at h
  unfold transitionRow
  cases hnext : nextPublicationState row.publicationState event with
  | none => simp [hnext] at h
  | some target =>
      rw [hnext] at h
      simp only [guardedPublicationUpdate_self present] at h
      cases hrow : publicationRow row row.status allowedStates (set target) with
      | none => simp [hrow] at h
      | some saved =>
          simp only [hrow, Option.map_some] at h
          split at h
          · cases h
          · next settled hsettled =>
              cases h
              rw [Store.recordOptional_reply, keeps _ _ _ hsettled, Option.bind_some, hrow]

/-- A committed terminal failure is its event. -/
theorem markPublicationTerminal_row (present : s.reply = some row)
    {errorClass : PublicationFailureClass} {fact : Option Fact}
    (h : markPublicationTerminal s row errorClass fact = .ok (some s')) :
    (terminalRow ⟨row, outcome⟩ errorClass).map (·.row) = s'.reply := by
  have hrow := publicationTransition_row present (by
    intro written saved settled hsettled
    split at hsettled
    · cases hsettled
      rfl
    · exact updateCurrentAttempt_reply hsettled) h
  unfold terminalRow
  rw [Option.map_map, hrow]
  exact Option.map_id' ..

/-- A committed acknowledgement is its event. -/
theorem markProviderOutcomePendingObservation_row (present : s.reply = some row)
    (h : markProviderOutcomePendingObservation s row circumstances.now = .ok (some s')) :
    (productionEvent ⟨row, outcome⟩ circumstances .providerAccepted).map (·.row) = s'.reply := by
  have hrow := publicationTransition_row present
    (fun _ _ _ hsettled ↦ updateCurrentAttempt_reply hsettled) h
  simp only [productionEvent]
  rw [Option.map_map, hrow]
  exact Option.map_id' ..

/-- A committed ambiguity with the default delay is its event. -/
theorem markPublicationAmbiguous_row (present : s.reply = some row) {fact : Option Fact}
    (h : markPublicationAmbiguous s row none circumstances.now fact = .ok (some s')) :
    (productionEvent ⟨row, outcome⟩ circumstances .failUnknown).map (·.row) = s'.reply := by
  unfold markPublicationAmbiguous at h
  split at h
  · cases h
  · have hrow := publicationTransition_row present
      (fun _ _ _ hsettled ↦ updateCurrentAttempt_reply hsettled) h
    simp only [productionEvent]
    rw [Option.map_map]
    exact (Option.map_id' ..).trans hrow

/-- A committed requeue is its event. -/
theorem markPublicationRetryQueued_row (present : s.reply = some row)
    (h : markPublicationRetryQueued s row circumstances.now = .ok (some s')) :
    (productionEvent ⟨row, outcome⟩ circumstances .requeue).map (·.row) = s'.reply := by
  unfold markPublicationRetryQueued at h
  simp only [productionEvent]
  cases hnext : nextPublicationState row.publicationState .requeue with
  | none => simp [hnext] at h
  | some target =>
      rw [hnext] at h
      simp only [guardedPublicationUpdate_self present] at h
      cases hrow : publicationRow row .approved [.sending] fun row ↦
          { row with
            publicationState := some target
            reconcileDueAt := some (circumstances.now + publicationRecoveryReconcileDelayMs) } with
      | none => simp [hrow] at h
      | some saved =>
          simp only [hrow, Option.map_some] at h
          split at h
          · cases h
          · next settled hsettled =>
              cases h
              rw [updateCurrentAttempt_reply hsettled]
              simp [hrow]

/-- Closing the attempt of a cancelled cycle leaves the reply. -/
theorem supersedeCancelledAttempt_reply {saved : Reply}
    (h : supersedeCancelledAttempt s saved = .ok s') : s'.reply = s.reply := by
  unfold supersedeCancelledAttempt at h
  split at h
  · exact updateCurrentAttempt_reply h
  · cases h
    rfl

/-- A committed cancellation is its event. -/
theorem cancelPublication_row (present : s.reply = some row) {cause : CancellationCause}
    (h : cancelPublication s row cause = .ok (some s')) :
    (productionEvent ⟨row, outcome⟩ circumstances .cancel).map (·.row) = s'.reply := by
  unfold cancelPublication at h
  simp only [productionEvent]
  cases hcancel : cancelledPublication row with
  | none => simp [hcancel] at h
  | some cancellation =>
      rw [hcancel] at h
      simp only [guardedPublicationUpdate_self present] at h
      cases hrow : publicationRow row row.status
          [.requested, .authorized, .sending, .pendingObservation] cancellation with
      | none => simp [hrow] at h
      | some saved =>
          simp only [hrow, Option.map_some] at h
          split at h
          · cases h
          · next settled hsettled =>
              cases h
              change _ = settled.reply
              rw [supersedeCancelledAttempt_reply hsettled]
              simp [hrow]

/-- A committed claim is its event, when the AI text gate let it through. -/
theorem markPublicationSending_row (present : s.reply = some row)
    {attempt : PublicationAttemptStart} {environment : ClaimEnvironment} {claimed : Reply}
    (h : markPublicationSending platform s row attempt environment = .ok (.claimed s' claimed)) :
    aiTextMayBeClaimed platform s row environment.bindingIsCurrent environment.inputsAreCurrent ∧
      publicationRow row .approved [.authorized] (fun row ↦
        { row with
          publicationState := some .sending
          publicationAttempts := row.publicationAttempts + 1
          reconcileDueAt := some (environment.now + publicationRecoveryReconcileDelayMs) }) =
        s'.reply := by
  obtain ⟨found, authorization, spec⟩ := markPublicationSending_claimed h
  obtain rfl : found = row := Option.some.inj (spec.present.symm.trans present)
  refine ⟨?_, ?_⟩
  · unfold markPublicationSending at h
    split at h
    · cases h
    · split at h
      · cases h
      · split at h
        · cases h
        · split at h
          · unfold cancelInsteadOfClaiming at h
            split at h <;> cases h
          · next hgate => simpa using hgate
  · have happroved := ((publicationSnapshotMatches_iff _ _ _).1 spec.isSnapshot).2.1
    simp [publicationRow, happroved, spec.read, spec.written, Store.writeReply, claimedReply]

/-- A committed approval or retry is its move, for text Google can be sent. -/
theorem markPublicationAuthorized_row (present : s.reply = some row)
    {intent : PublicationIntent} {isApproval actorAllowed : Bool}
    (sendable : replyCommentProblem row.text = none)
    (h : markPublicationAuthorized platform s row intent isApproval
      circumstances.bindingIsCurrent actorAllowed circumstances.now = .ok (some s')) :
    (authorizeRow row (authorizingCommand isApproval) circumstances).map (·.row) = s'.reply := by
  unfold markPublicationAuthorized at h
  split at h
  · cases h
  · next hstart =>
      have hnext : nextPublicationState row.publicationState .authorize ≠ none :=
        fun hnone ↦ hstart (Or.inr hnone)
      split at h
      · cases h
      · next cycle hcycle =>
          have hsucc : cycle = row.publicationCycle + 1 := by
            unfold assertPublicationIntentMatchesCycle at hcycle
            split at hcycle
            · cases hcycle
            · next hnextCycle =>
                split at hcycle
                · cases hcycle
                  exact nextPublicationCycle_eq_ok hnextCycle
                · cases hcycle
          subst hsucc
          unfold authorizePublicationCycle at h
          split at h
          · cases h
          · next saved hauthorized =>
              cases h
          · next saved hauthorized =>
              split at hauthorized
              · cases hauthorized
              · rw [guardedReplyUpdate_self present] at hauthorized
                unfold authorizeRow
                rw [if_neg (by simp [hnext, sendable])]
                change Option.map _ (Option.map _ (commandRow row (authorizingCommand isApproval)
                  circumstances.bindingIsCurrent _)) = _
                unfold authorizedSet
                split at hauthorized
                · cases hauthorized
                · next written saved' hwritten =>
                    obtain ⟨saved'', hrow, hpair⟩ := Option.map_eq_some_iff.1 hwritten
                    rw [hrow]
                    cases hpair
                    unfold insertAuthorization at hauthorized
                    split at hauthorized
                    · cases hauthorized
                    · cases hauthorized
                      cases h
                      simp [Store.record]

/-- A confirmed observation leaves the row of its event. -/
theorem confirmReplyOnGoogle_row (present : s.reply = some row) {attempt : PublicationAttempt}
    {observationRevision : Nat} (isOpen : isOpenAttemptOutcome attempt.outcome)
    (h : confirmReplyOnGoogle s row attempt observationRevision = .ok s') :
    (confirmRow ⟨row, some attempt.outcome⟩).map (·.row) = s'.reply := by
  unfold confirmReplyOnGoogle updateReplyOrThrow at h
  rw [present] at h
  simp only [Option.filter_some] at h
  split at h
  · cases h
  · next confirmed hconfirmed =>
      cases h
      split at hconfirmed
      · cases hconfirmed
      · next selected hselected =>
          split at hselected
          · next hguard =>
              cases hselected
              cases hconfirmed
              simp only [Bool.and_eq_true] at hguard
              unfold confirmRow
              rw [if_pos (by
                simp only [ReplyInPublication.hasOpenAttempt, Option.any_some, isOpen, hguard.1.2,
                  hguard.2, Bool.and_self])]
              rfl
          · cases hselected

/-- What a guest edit takes back is its move. -/
theorem takeBackReplyPutForwardBeforeGuestEdit_row (present : s.reply = some row)
    {takenBack : ReplyInPublication} (h : guestEditRow ⟨row, outcome⟩ = some takenBack) :
    (takeBackReplyPutForwardBeforeGuestEdit s).reply = some takenBack.row := by
  unfold guestEditRow at h
  obtain ⟨change, hchange, rfl⟩ := Option.map_eq_some_iff.1 h
  unfold takeBackReplyPutForwardBeforeGuestEdit
  rw [present]
  simp only [hchange, Store.record]
  split
  · unfold supersedeCurrentAttempt
    split <;> rfl
  · rfl

/-- The purge of AI drafts leaves the row of its move. -/
theorem withdrawAiDrafts_row (present : s.reply = some row) (pastItsWindow : Bool) :
    (purgeRow (some ⟨row, outcome⟩) .everyAiReply pastItsWindow).map (·.row) =
      (withdrawAiDrafts s).reply := by
  unfold purgeRow withdrawAiDrafts
  rw [present]
  simp only
  split
  · exact present.symm
  · split
    · next h => exact absurd h.1 (by decide)
    · split
      · split <;> rfl
      · split
        · rfl
        · split
          · split <;> rfl
          · exact present.symm

end Stores

end ReputationKey.Review
