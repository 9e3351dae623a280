import ReputationKey.Review.OracleRefinement

/-!
# Publication events of production and of the workflow

The events agree as the commands do, but for the starts the shared publication table gives an event
beyond the workflow's own: from those, one of the two accepts it and the other refuses.
-/

namespace ReputationKey.Review

open Oracle (OracleReply OracleState ManagerCommand CommandEvidence PublicationEvent ReplyOnScreen
  AiDraftPurgeScope managerVerdict afterPublicationEvent)

variable {reply : ReplyInPublication} {oracle : OracleReply} {circumstances : Circumstances}
  {evidence : CommandEvidence}

/-! ## Publication events -/

/-- The workflow's move for an event; a claim is one the last gate lets through. -/
def workflowEvent (oracle : OracleReply) (evidence : CommandEvidence) :
    PublicationEvent → Option OracleReply
  | .claim =>
      if Oracle.mayBeClaimed oracle evidence then afterPublicationEvent oracle .claim else none
  | event => afterPublicationEvent oracle event

/-- The starts the two give an event differently: the table cancels an accepted write and ends a
cycle as failed from any state of it, and provider truth leaves a cycle between two attempts. -/
def startsDiffer (row : Reply) : PublicationEvent → Bool
  | .cancel => row.publicationState == some .pendingObservation
  | .failNotSent | .failRejected =>
      row.publicationState == some .authorized || row.publicationState == some .ambiguous
  | .settleUnclaimed =>
      row.publicationState == some .sending || row.publicationState == some .ambiguous
  | .endChecks =>
      row.publicationState == some .authorized || row.publicationState == some .sending
  | .supersede =>
      row.publicationState == some .authorized && decide (0 < row.publicationAttempts)
  | _ => false

/-- A reply the workflow may be in, by its publication state. -/
theorem ReplyInPublication.Kept.cases (kept : reply.Kept) :
    ((reply.row.publicationState = none ∨ reply.row.publicationState = some .cancelled) ∧
      reply.row.status ≠ .approved ∧ reply.row.status ≠ .publishFailed) ∨
    (reply.row.publicationState = some .authorized ∧ reply.row.status = .approved) ∨
    (reply.row.publicationState = some .sending ∧ reply.row.status = .approved) ∨
    (reply.row.publicationState = some .pendingObservation ∧ reply.row.status = .approved) ∨
    (reply.row.publicationState = some .published ∧ reply.row.status = .published) ∨
    (reply.row.publicationState = some .terminal ∧ reply.row.status = .publishFailed) ∨
    (reply.row.publicationState = some .ambiguous ∧ reply.row.status = .publishFailed) := by
  rcases (Reply.isLegal_iff _).1 kept.legal with ⟨h, h' | h' | h'⟩ | ⟨h | h | h, h'⟩ | ⟨h, h'⟩ |
    ⟨h | h, h'⟩ <;> simp [h, h']

/-- A row with its publication moved. -/
def Reply.moved (row : Reply) (status : ReplyStatus) (state : PersistedPublicationState)
    (errorClass : Option PublicationFailureClass) (attempts : Nat) (dueAt : Option Int) : Reply :=
  { row with
    status := status
    publicationState := some state
    publicationLastErrorClass := errorClass
    publicationAttempts := attempts
    reconcileDueAt := dueAt }

/-- A publication write outside its states leaves nothing. -/
theorem publicationRow_eq_none {row : Reply} {expectedStatus : ReplyStatus}
    {allowedStates : List PersistedPublicationState} {set : Reply → Reply}
    (outside : ∀ state ∈ allowedStates, row.publicationState ≠ some state) :
    publicationRow row expectedStatus allowedStates set = none := by
  unfold publicationRow
  rw [if_neg]
  intro h
  obtain ⟨hany, -⟩ := Bool.and_eq_true_iff.1 h
  obtain ⟨state, hstate, hmem⟩ := (Option.any_eq_true _ _).1 hany
  exact outside state (by simpa using hmem) hstate

/-- A publication write inside its states moves the row. -/
theorem publicationRow_eq_some {row : Reply} {expectedStatus : ReplyStatus}
    {allowedStates : List PersistedPublicationState} {set : Reply → Reply}
    {state : PersistedPublicationState} (read : row.publicationState = some state)
    (allowed : allowedStates.contains state) (status : row.status = expectedStatus) :
    publicationRow row expectedStatus allowedStates set =
      some (applyReplyTrigger row (set row)) := by
  unfold publicationRow
  simp only [read, Option.any_some, allowed, status, beq_self_eq_true, Bool.and_self, if_true]

/-- A transition outside its states leaves nothing. -/
theorem transitionRow_eq_none {row : Reply} {event : PublicationStateEvent}
    {allowedStates : List PersistedPublicationState}
    {set : PersistedPublicationState → Reply → Reply}
    (outside : ∀ state ∈ allowedStates, row.publicationState ≠ some state) :
    transitionRow row event allowedStates set = none := by
  unfold transitionRow
  cases nextPublicationState row.publicationState event with
  | none => rfl
  | some target => exact publicationRow_eq_none outside

/-- A transition the table has moves the row. -/
theorem transitionRow_eq_some {row : Reply} {event : PublicationStateEvent}
    {allowedStates : List PersistedPublicationState}
    {set : PersistedPublicationState → Reply → Reply} {state target : PersistedPublicationState}
    (read : row.publicationState = some state)
    (next : persistedPublicationTransitions state event = some target)
    (allowed : allowedStates.contains state) :
    transitionRow row event allowedStates set =
      some (applyReplyTrigger row (set target row)) := by
  unfold transitionRow
  rw [show nextPublicationState row.publicationState event = some target by
    rw [read]
    exact next]
  exact publicationRow_eq_some read allowed rfl

/-- A reply of the workflow is in a status and one of some publication states. -/
theorem Represents.isIn (rep : Represents reply oracle) (status : ReplyStatus)
    (publications : List PersistedPublicationState) :
    Oracle.isIn oracle status publications = true ↔
      reply.row.status = status ∧
        ∃ state ∈ publications, reply.row.publicationState = some state := by
  unfold Oracle.isIn
  rw [rep.status, rep.publication, Bool.and_eq_true, Option.any_eq_true, beq_iff_eq]
  simp only [List.contains_iff_mem]
  exact and_congr_right fun _ ↦ ⟨fun ⟨state, h, hmem⟩ ↦ ⟨state, hmem, h⟩,
    fun ⟨state, hmem, h⟩ ↦ ⟨state, h, hmem⟩⟩

/-- An event that moves the publication on both sides agrees. -/
theorem moved_agrees {status workflowStatus : ReplyStatus} {state : PersistedPublicationState}
    {errorClass lastFailure : Option PublicationFailureClass} {attempts workflowAttempts : Nat}
    {dueAt : Option Int} {outcome : Option AttemptOutcome} (rep : Represents reply oracle)
    (kept : reply.Kept) (inCycle : reply.row.publicationState ≠ none)
    (notDraft : reply.row.status ≠ .draft)
    (legal : (reply.row.moved status state errorClass attempts dueAt).isLegal)
    (attempt : attemptMatches (reply.row.moved status state errorClass attempts dueAt) outcome)
    (counted : (reply.row.moved status state errorClass attempts dueAt).awaitsAnswer →
      1 ≤ attempts)
    (failure : state = .terminal ∨ state = .ambiguous → lastFailure = errorClass)
    (sameStatus : workflowStatus = status) (sameAttempts : workflowAttempts = attempts) :
    Agrees
      (some (some
        ⟨applyReplyTrigger reply.row (reply.row.moved status state errorClass attempts dueAt),
          outcome⟩))
      (some (some
        { oracle with
          status := workflowStatus
          publication := some state
          lastFailure := lastFailure
          attempts := workflowAttempts })) := by
  refine agrees_some ?_ ⟨legal, attempt, fun _ ↦ kept.cycled inCycle, counted,
    Or.inl (kept.sendable notDraft)⟩
  refine ⟨sameStatus, rfl, fun h ↦ failure ?_, rep.cycle, sameAttempts, rep.text, rep.authorship⟩
  simpa [applyReplyTrigger, Reply.moved] using h

/-- The evidence of the workflow is what the transactions read. -/
structure Matches (evidence : CommandEvidence) (circumstances : Circumstances) : Prop where
  proof : evidence.provablyNeverSent = circumstances.provablyNeverSent
  binding : evidence.aiBindingCurrent = circumstances.bindingIsCurrent
  inputs : evidence.aiInputsCurrent = circumstances.inputsAreCurrent
  claimed : evidence.textClaimedBefore = circumstances.textClaimedBefore

/-- The last gate of AI text is the same on both sides. -/
theorem Represents.mayBeClaimed (rep : Represents reply oracle) (kept : reply.Kept)
    (read : Matches evidence circumstances) :
    Oracle.mayBeClaimed oracle evidence = true ↔
      reply.row.publicationState = some .authorized ∧
        (aiTextMayAdvance reply.row circumstances.bindingIsCurrent ||
          (circumstances.inputsAreCurrent && circumstances.textClaimedBefore)) = true := by
  unfold Oracle.mayBeClaimed
  have hstale := rep.staleAiText evidence
  rw [Bool.and_eq_true, rep.isIn, Bool.or_eq_true, Bool.not_eq_true', hstale, read.binding,
    read.claimed, read.inputs, Bool.or_eq_true, Bool.and_comm circumstances.textClaimedBefore]
  refine and_congr_left fun _ ↦ ⟨fun ⟨_, state, hmem, h⟩ ↦ ?_, fun h ↦ ⟨?_, _, by simp, h⟩⟩
  · rwa [List.mem_singleton.1 hmem] at h
  · rcases kept.cases with h' | h' | h' | h' | h' | h' | h' <;> simp_all

/-- A worker takes the same cycles on both sides. -/
theorem claim_agrees (rep : Represents reply oracle) (kept : reply.Kept)
    (read : Matches evidence circumstances) :
    Agrees ((productionEvent reply circumstances .claim).map some)
      ((workflowEvent oracle evidence .claim).map some) := by
  have hgate := rep.mayBeClaimed kept read
  simp only [productionEvent, workflowEvent, afterPublicationEvent]
  by_cases hmay : Oracle.mayBeClaimed oracle evidence = true
  · obtain ⟨h, hpass⟩ := hgate.1 hmay
    have hstatus : reply.row.status = .approved := by
      rcases kept.cases with h' | h' | h' | h' | h' | h' | h' <;> simp_all
    rw [if_pos hmay, if_pos ((rep.isIn .approved [.authorized]).2 ⟨hstatus, _, by simp, h⟩),
      if_neg (by rw [h, hpass]; decide), publicationRow_eq_some h rfl hstatus]
    exact moved_agrees rep kept (by simp [h]) (by simp [hstatus])
      (by rw [Reply.isLegal_iff]; simp [Reply.moved, hstatus]) rfl (fun _ ↦ by omega) (by simp)
      rep.status (congrArg (· + 1) rep.attempts)
  · rw [if_neg hmay]
    by_cases h : reply.row.publicationState = some .authorized
    · rw [if_pos]
      · trivial
      · exact Or.inr (by
          rw [Bool.not_eq_true', ← Bool.not_eq_true]
          exact fun hpass ↦ hmay (hgate.2 ⟨h, hpass⟩))
    · rw [publicationRow_eq_none (by simpa using h)]
      split <;> trivial

/-- The status of a reply in a cycle, by its publication state. -/
theorem ReplyInPublication.Kept.approved (kept : reply.Kept)
    (open_ : reply.row.publicationState = some .authorized ∨
      reply.row.publicationState = some .sending ∨
      reply.row.publicationState = some .pendingObservation) : reply.row.status = .approved := by
  rcases kept.cases with ⟨h | h, -⟩ | ⟨h, h'⟩ | ⟨h, h'⟩ | ⟨h, h'⟩ | ⟨h, h'⟩ | ⟨h, h'⟩ | ⟨h, h'⟩ <;>
    simp_all

/-- A failed publication is terminal or ambiguous. -/
theorem ReplyInPublication.Kept.failed (kept : reply.Kept)
    (ended : reply.row.publicationState = some .terminal ∨
      reply.row.publicationState = some .ambiguous) : reply.row.status = .publishFailed := by
  rcases kept.cases with ⟨h | h, -⟩ | ⟨h, h'⟩ | ⟨h, h'⟩ | ⟨h, h'⟩ | ⟨h, h'⟩ | ⟨h, h'⟩ | ⟨h, h'⟩ <;>
    simp_all

/-- Google's success moves the same replies on both sides. -/
theorem providerAccepted_agrees (rep : Represents reply oracle) (kept : reply.Kept) :
    Agrees ((productionEvent reply circumstances .providerAccepted).map some)
      ((workflowEvent oracle evidence .providerAccepted).map some) := by
  simp only [productionEvent, workflowEvent, afterPublicationEvent]
  by_cases h : reply.row.publicationState = some .sending
  · have hstatus := kept.approved (Or.inr (Or.inl h))
    have hattempts : 1 ≤ reply.row.publicationAttempts :=
      kept.counted (by simp [Reply.awaitsAnswer, isUncertainPublicationState, h])
    rw [transitionRow_eq_some h rfl rfl, if_pos ((rep.isIn _ _).2 ⟨hstatus, _, by simp, h⟩)]
    exact moved_agrees rep kept (by simp [h]) (by simp [hstatus])
      (by rw [Reply.isLegal_iff]; simp [Reply.moved, hstatus]) rfl (fun _ ↦ hattempts) (by simp)
      rep.status rep.attempts
  · rw [transitionRow_eq_none (by simpa using h), if_neg]
    · trivial
    · rw [rep.isIn]
      simpa using fun _ ↦ h

/-- A refusal inside RepKey returns the same cycles on both sides. -/
theorem requeue_agrees (rep : Represents reply oracle) (kept : reply.Kept) :
    Agrees ((productionEvent reply circumstances .requeue).map some)
      ((workflowEvent oracle evidence .requeue).map some) := by
  simp only [productionEvent, workflowEvent, afterPublicationEvent]
  by_cases h : reply.row.publicationState = some .sending
  · have hstatus := kept.approved (Or.inr (Or.inl h))
    rw [(nextPublicationState_requeue _ _).2 ⟨h, rfl⟩, Option.bind_some,
      publicationRow_eq_some h rfl hstatus,
      if_pos ((rep.isIn _ _).2 ⟨hstatus, _, by simp, h⟩)]
    exact moved_agrees rep kept (by simp [h]) (by simp [hstatus])
      (by rw [Reply.isLegal_iff]; simp [Reply.moved, hstatus]) rfl
      (by simp [Reply.awaitsAnswer, isUncertainPublicationState, endedWithoutAnAnswer,
        Reply.moved]) (by simp) rep.status rep.attempts
  · rw [if_neg (by rw [rep.isIn]; simpa using fun _ ↦ h)]
    cases hnext : nextPublicationState reply.row.publicationState .requeue with
    | none => trivial
    | some target => exact absurd ((nextPublicationState_requeue _ _).1 hnext).1 h

/-- An outcome nobody learned is recorded for the same replies on both sides. -/
theorem failUnknown_agrees (rep : Represents reply oracle) (kept : reply.Kept) :
    Agrees ((productionEvent reply circumstances .failUnknown).map some)
      ((workflowEvent oracle evidence .failUnknown).map some) := by
  simp only [productionEvent, workflowEvent, afterPublicationEvent]
  by_cases h : reply.row.publicationState = some .sending ∨
      reply.row.publicationState = some .pendingObservation
  · have hstatus := kept.approved (Or.inr h)
    have hattempts : 1 ≤ reply.row.publicationAttempts :=
      kept.counted (by rcases h with h | h <;>
        simp [Reply.awaitsAnswer, isUncertainPublicationState, h])
    have hin : Oracle.isIn oracle .approved [.sending, .pendingObservation] = true :=
      (rep.isIn _ _).2 ⟨hstatus, by simpa using h⟩
    have hmoved : ∀ state, reply.row.publicationState = some state →
        persistedPublicationTransitions state .failAmbiguous = some .ambiguous →
        [PersistedPublicationState.sending, .pendingObservation].contains state → Agrees
        (((transitionRow reply.row .failAmbiguous [.sending, .pendingObservation]
          fun target row ↦
            { row with
              status := .publishFailed
              publicationState := some target
              publicationLastErrorClass := some .ambiguous
              reconcileDueAt := some (circumstances.now + ambiguousReconcileDelayMs)
            }).map (ReplyInPublication.mk · (some .ambiguous))).map some)
        (some (some
          { oracle with
            status := .publishFailed
            publication := some .ambiguous
            lastFailure := some .ambiguous })) := by
      intro state hstate hnext hmem
      rw [transitionRow_eq_some hstate hnext hmem]
      exact moved_agrees rep kept (by simp [hstate]) (by simp [hstatus])
        (by rw [Reply.isLegal_iff]; simp [Reply.moved]) rfl (fun _ ↦ hattempts) (fun _ ↦ rfl)
        rfl rep.attempts
    rw [if_pos hin]
    rcases h with h | h
    · exact hmoved _ h rfl rfl
    · exact hmoved _ h rfl rfl
  · rw [transitionRow_eq_none (by simpa using h), if_neg]
    · trivial
    · rw [rep.isIn]
      simpa using fun _ ↦ h

/-- What ending a cycle as failed leaves, in the states it may be asked from. -/
theorem terminalRow_eq_some {state : PersistedPublicationState}
    {errorClass : PublicationFailureClass} (read : reply.row.publicationState = some state)
    (mayEnd : state = .authorized ∨ state = .sending ∨ state = .ambiguous) :
    terminalRow reply errorClass =
      some ⟨applyReplyTrigger reply.row
          (reply.row.moved .publishFailed .terminal (some errorClass)
            reply.row.publicationAttempts none),
        if reply.row.publicationAttempts < 1 then reply.outcome
        else some (terminalAttemptOutcome errorClass)⟩ := by
  unfold terminalRow
  rcases mayEnd with rfl | rfl | rfl <;> rw [transitionRow_eq_some read rfl rfl] <;> rfl

/-- A cycle that is not open ends on neither side. -/
theorem terminalRow_eq_none {errorClass : PublicationFailureClass} (kept : reply.Kept)
    (outside : reply.row.publicationState ≠ some .authorized ∧
      reply.row.publicationState ≠ some .sending ∧
      reply.row.publicationState ≠ some .ambiguous) :
    terminalRow reply errorClass = none := by
  unfold terminalRow
  rw [transitionRow_eq_none]
  · rfl
  · have hrequested : reply.row.publicationState ≠ some .requested := by
      rcases kept.cases with ⟨h | h, -⟩ | ⟨h, -⟩ | ⟨h, -⟩ | ⟨h, -⟩ | ⟨h, -⟩ | ⟨h, -⟩ | ⟨h, -⟩ <;>
        simp [h]
    simpa using ⟨hrequested, outside⟩

/-- A cycle that ends as failed ends the same way on both sides. -/
theorem failed_agrees {state : PersistedPublicationState} {errorClass : PublicationFailureClass}
    (rep : Represents reply oracle) (kept : reply.Kept)
    (read : reply.row.publicationState = some state)
    (mayEnd : (state = .authorized ∧ errorClass ≠ .ambiguous) ∨ state = .sending ∨
      state = .ambiguous) :
    Agrees ((terminalRow reply errorClass).map some)
      (some (some (Oracle.failed oracle errorClass))) := by
  have hstatus : reply.row.status ≠ .draft := by
    rcases mayEnd with ⟨rfl, -⟩ | rfl | rfl
    · simp [kept.approved (Or.inl read)]
    · simp [kept.approved (Or.inr (Or.inl read))]
    · simp [kept.failed (Or.inr read)]
  have hattempts : errorClass = .ambiguous → 1 ≤ reply.row.publicationAttempts := by
    intro hclass
    apply kept.counted
    rcases mayEnd with ⟨-, hne⟩ | rfl | rfl
    · exact absurd hclass hne
    · simp [Reply.awaitsAnswer, isUncertainPublicationState, read]
    · simp [Reply.awaitsAnswer, isUncertainPublicationState, read]
  have hclosed : reply.row.publicationAttempts < 1 → reply.hasOpenAttempt = false := by
    intro hlt
    rw [← Bool.not_eq_true, kept.hasOpenAttempt_iff]
    intro hawaits
    have hle := kept.counted hawaits
    omega
  rw [terminalRow_eq_some read (by tauto)]
  refine moved_agrees rep kept (by simp [read]) hstatus
    (by rw [Reply.isLegal_iff]; simp [Reply.moved]) ?_ ?_ (fun _ ↦ rfl) rfl rep.attempts
  · by_cases hlt : reply.row.publicationAttempts < 1
    · have hopen := hclosed hlt
      have hclass : errorClass ≠ .ambiguous := by
        intro hclass
        have hle := hattempts hclass
        omega
      unfold ReplyInPublication.hasOpenAttempt at hopen
      rw [if_pos hlt]
      simp [attemptMatches, Reply.moved, hclass, hopen]
    · rw [if_neg hlt]
      cases errorClass <;> rfl
  · intro hawaits
    simp [Reply.awaitsAnswer, isUncertainPublicationState, endedWithoutAnAnswer, Reply.moved]
      at hawaits
    exact hattempts hawaits

/-- A reply a cancellation or provider truth returns to draft is the same draft on both sides. -/
theorem cancelled_agrees {outcome : Option AttemptOutcome}
    {lastFailure : Option PublicationFailureClass} (rep : Represents reply oracle)
    (kept : reply.Kept) (inCycle : reply.row.publicationState ≠ none)
    (notDraft : reply.row.status ≠ .draft) (closed : outcome.any isOpenAttemptOutcome = false) :
    Agrees (some (some ⟨applyReplyTrigger reply.row (cancelledReplySet reply.row), outcome⟩))
      (some (some
        { oracle with
          status := .draft
          publication := some .cancelled
          lastFailure := lastFailure
          attempts := oracle.attempts })) := by
  change Agrees
    (some (some ⟨applyReplyTrigger reply.row
      (reply.row.moved .draft .cancelled none reply.row.publicationAttempts none), outcome⟩)) _
  exact moved_agrees rep kept inCycle notDraft (by rw [Reply.isLegal_iff]; simp [Reply.moved])
    (by simp [attemptMatches, Reply.moved, closed])
    (by simp [Reply.awaitsAnswer, isUncertainPublicationState, endedWithoutAnAnswer, Reply.moved])
    (by simp) rfl rep.attempts

/-- No reply of the workflow is only requested. -/
theorem ReplyInPublication.Kept.not_requested (kept : reply.Kept) :
    reply.row.publicationState ≠ some .requested := by
  rcases kept.cases with ⟨h | h, -⟩ | ⟨h, -⟩ | ⟨h, -⟩ | ⟨h, -⟩ | ⟨h, -⟩ | ⟨h, -⟩ | ⟨h, -⟩ <;>
    simp [h]

/-- A reply between two attempts, or before the first, has nothing open. -/
theorem ReplyInPublication.Kept.closed (kept : reply.Kept)
    (answered : reply.row.awaitsAnswer = false) :
    reply.outcome.any isOpenAttemptOutcome = false := by
  change reply.hasOpenAttempt = false
  rw [← Bool.not_eq_true, kept.hasOpenAttempt_iff, answered]
  simp

/-- A cancellation of a cycle that is open before Google accepted it. -/
theorem cancelledPublication_of_open
    (open_ : reply.row.publicationState = some .authorized ∨
      reply.row.publicationState = some .sending) :
    cancelledPublication reply.row = some cancelledReplySet := by
  unfold cancelledPublication
  rcases open_ with h | h <;> rw [h] <;> rfl

/-- A policy or a disconnect cancels the same cycles on both sides, but for an accepted write. -/
theorem cancel_agrees (rep : Represents reply oracle) (kept : reply.Kept)
    (same : startsDiffer reply.row .cancel = false) :
    Agrees ((productionEvent reply circumstances .cancel).map some)
      ((workflowEvent oracle evidence .cancel).map some) := by
  have hpending : reply.row.publicationState ≠ some .pendingObservation := by
    simpa [startsDiffer] using same
  simp only [productionEvent, workflowEvent, afterPublicationEvent]
  by_cases h : reply.row.publicationState = some .authorized ∨
      reply.row.publicationState = some .sending
  · have hstatus := kept.approved (by tauto)
    have hrow : publicationRow reply.row reply.row.status
        [.requested, .authorized, .sending, .pendingObservation] cancelledReplySet =
        some (applyReplyTrigger reply.row (cancelledReplySet reply.row)) := by
      rcases h with h | h <;> exact publicationRow_eq_some h rfl rfl
    rw [if_pos ((rep.isIn _ _).2 ⟨hstatus, by simpa using h⟩), cancelledPublication_of_open h,
      Option.bind_some, hrow]
    refine cancelled_agrees rep kept (by rcases h with h | h <;> simp [h]) (by simp [hstatus]) ?_
    split
    · rfl
    · next hattempts =>
        apply kept.closed
        rw [← Bool.not_eq_true]
        exact fun hawaits ↦ hattempts (kept.counted hawaits)
  · rw [if_neg (by rw [rep.isIn]; simpa using fun _ ↦ by simpa using h)]
    cases hcancel : cancelledPublication reply.row with
    | none => trivial
    | some cancellation =>
        rw [Option.bind_some, publicationRow_eq_none]
        · trivial
        · rw [not_or] at h
          simpa using ⟨kept.not_requested, h.1, h.2, hpending⟩

/-- An attempt that never left is settled for the same replies on both sides. -/
theorem settleNeverSent_agrees (rep : Represents reply oracle) (kept : reply.Kept) :
    Agrees ((productionEvent reply circumstances .settleNeverSent).map some)
      ((workflowEvent oracle evidence .settleNeverSent).map some) := by
  simp only [productionEvent, workflowEvent, afterPublicationEvent]
  have hguard : (Oracle.isIn oracle .approved [.sending] || Oracle.outcomeUnknown oracle) = true ↔
      reply.row.publicationState = some .sending ∨
        requiresPositiveReconciliation reply.row = true := by
    rw [Bool.or_eq_true, rep.isIn, rep.outcomeUnknown kept]
    simp only [List.mem_singleton, exists_eq_left]
    exact or_congr_left ⟨fun h ↦ h.2, fun h ↦ ⟨kept.approved (Or.inr (Or.inl h)), h⟩⟩
  by_cases h : reply.row.publicationState = some .sending ∨
      requiresPositiveReconciliation reply.row = true
  · rw [settleRow_of_unknown kept h, if_pos rfl, if_pos (hguard.2 h)]
    have hstarted : reply.row.status ≠ .draft ∧ reply.row.publicationState ≠ none := by
      rcases h with h | h
      · simp [kept.approved (Or.inr (Or.inl h)), h]
      · have hended : reply.row.publicationState = some .terminal ∨
            reply.row.publicationState = some .ambiguous := by
          simp only [requiresPositiveReconciliation, endedWithoutAnAnswer, Bool.or_eq_true,
            Bool.and_eq_true, beq_iff_eq] at h
          tauto
        refine ⟨by simp [kept.failed hended], ?_⟩
        rcases hended with h' | h' <;> simp [h']
    exact moved_agrees rep kept hstarted.2 hstarted.1
      (by rw [Reply.isLegal_iff]; simp [Reply.moved]) rfl
      (by simp [Reply.awaitsAnswer, isUncertainPublicationState, endedWithoutAnAnswer,
        Reply.moved]) (fun _ ↦ rfl) rfl rep.attempts
  · rw [if_neg fun hin ↦ h (hguard.1 hin)]
    have hnone : (uncertainSnapshotFor reply.row neverDispatchedSettleable).isNone = true := by
      simp only [requiresPositiveReconciliation, endedWithoutAnAnswer] at h
      simp [uncertainSnapshotFor, neverDispatchedSettleable, UncertainSendSnapshot.describes]
      simp at h
      tauto
    unfold settleRow
    rw [if_pos (Or.inl hnone)]
    trivial

/-- A reply whose outcome nobody knows is one a provider read may settle. -/
theorem ReplyInPublication.Kept.claimable (kept : reply.Kept)
    (awaits : reply.row.awaitsAnswer = true) :
    isClaimablePublicationStatus reply.row.status = true ∧ reply.row.status ≠ .draft ∧
      reply.row.publicationState ≠ none := by
  simp only [Reply.awaitsAnswer, isUncertainPublicationState, endedWithoutAnAnswer,
    Bool.or_eq_true, Bool.and_eq_true, beq_iff_eq] at awaits
  rcases kept.cases with ⟨h | h, -⟩ | ⟨h, hs⟩ | ⟨h, hs⟩ | ⟨h, hs⟩ | ⟨h, hs⟩ | ⟨h, hs⟩ | ⟨h, hs⟩ <;>
    simp_all [isClaimablePublicationStatus]

/-- The workflow's replies whose outcome nobody knows. -/
theorem Represents.awaitsAnswer (rep : Represents reply oracle) (kept : reply.Kept) :
    (Oracle.isIn oracle .approved [.sending, .pendingObservation] ||
        Oracle.outcomeUnknown oracle) = true ↔ reply.row.awaitsAnswer = true := by
  rw [Bool.or_eq_true, rep.isIn, rep.outcomeUnknown kept]
  unfold requiresPositiveReconciliation Reply.awaitsAnswer isUncertainPublicationState
  simp only [List.mem_cons, List.not_mem_nil, or_false, exists_eq_or_imp, exists_eq_left,
    Bool.or_eq_true, beq_iff_eq, or_assoc]
  constructor
  · rintro (⟨-, h | h⟩ | h | h)
    · exact Or.inl h
    · exact Or.inr (Or.inl h)
    · exact Or.inr (Or.inr (Or.inl h))
    · exact Or.inr (Or.inr (Or.inr h))
  · rintro (h | h | h | h)
    · exact Or.inl ⟨kept.approved (Or.inr (Or.inl h)), Or.inl h⟩
    · exact Or.inl ⟨kept.approved (Or.inr (Or.inr h)), Or.inr h⟩
    · exact Or.inr (Or.inl h)
    · exact Or.inr (Or.inr h)

/-- Google showing the attempt's own text publishes the same replies on both sides. -/
theorem confirm_agrees (rep : Represents reply oracle) (kept : reply.Kept) :
    Agrees ((productionEvent reply circumstances .confirm).map some)
      ((workflowEvent oracle evidence .confirm).map some) := by
  simp only [productionEvent, workflowEvent, afterPublicationEvent, confirmRow]
  by_cases h : reply.row.awaitsAnswer = true
  · obtain ⟨hclaimable, hnotDraft, hstarted⟩ := kept.claimable h
    rw [if_pos ((rep.awaitsAnswer kept).2 h), if_pos]
    · exact moved_agrees rep kept hstarted hnotDraft
        (by rw [Reply.isLegal_iff]; simp [Reply.moved]) rfl
        (by simp [Reply.awaitsAnswer, isUncertainPublicationState, endedWithoutAnAnswer,
          Reply.moved]) (by simp) rfl rep.attempts
    · rw [kept.hasOpenAttempt_iff.2 h, hclaimable]
      simp only [Reply.awaitsAnswer, endedWithoutAnAnswer, Bool.or_eq_true, Bool.and_eq_true] at h
      simp only [Bool.and_self, Bool.true_and, Bool.or_eq_true]
      exact h.imp_right fun h ↦ h.1
  · rw [if_neg fun hin ↦ h ((rep.awaitsAnswer kept).1 hin), if_neg]
    · trivial
    · simp only [Bool.and_eq_true]
      exact fun hguard ↦ h (kept.hasOpenAttempt_iff.1 hguard.1.1)

/-- Google showing another reply cancels the same replies on both sides, but for a cycle between
two attempts. -/
theorem supersede_agrees (rep : Represents reply oracle) (kept : reply.Kept)
    (same : startsDiffer reply.row .supersede = false) :
    Agrees ((productionEvent reply circumstances .supersede).map some)
      ((workflowEvent oracle evidence .supersede).map some) := by
  simp only [productionEvent, workflowEvent, afterPublicationEvent, supersedeRow]
  have hguard : (Oracle.isIn oracle .approved [.authorized, .sending, .pendingObservation] ||
      Oracle.outcomeUnknown oracle) = true ↔
      reply.row.publicationState = some .authorized ∨ reply.row.awaitsAnswer = true := by
    rw [← rep.awaitsAnswer kept, Bool.or_eq_true, Bool.or_eq_true, rep.isIn, rep.isIn, ← or_assoc]
    refine or_congr_left ?_
    simp only [List.mem_cons, List.not_mem_nil, or_false, exists_eq_or_imp, exists_eq_left]
    constructor
    · rintro ⟨hs, h | h⟩
      · exact Or.inl h
      · exact Or.inr ⟨hs, h⟩
    · rintro (h | ⟨hs, h⟩)
      · exact ⟨kept.approved (Or.inl h), Or.inl h⟩
      · exact ⟨hs, Or.inr h⟩
  by_cases h : reply.row.awaitsAnswer = true
  · obtain ⟨hclaimable, hnotDraft, hstarted⟩ := kept.claimable h
    rw [if_pos (hguard.2 (Or.inr h)), if_pos]
    · exact @cancelled_agrees reply oracle _ none rep kept hstarted hnotDraft rfl
    · rw [kept.hasOpenAttempt_iff.2 h, hclaimable]
      exact h
  · rw [if_neg (by
      simp only [Bool.and_eq_true]
      exact fun hguard ↦ h (kept.hasOpenAttempt_iff.1 hguard.1.1))]
    by_cases hauthorized : reply.row.publicationState = some .authorized
    · have hattempts : reply.row.publicationAttempts = 0 := by
        simpa [startsDiffer, hauthorized] using same
      have hstatus := kept.approved (Or.inl hauthorized)
      rw [if_pos (hguard.2 (Or.inl hauthorized)), if_pos (by
        simp [hstatus, hauthorized, hattempts])]
      exact @cancelled_agrees reply oracle _ none rep kept (by simp [hauthorized])
        (by simp [hstatus]) (kept.closed (by simpa using h))
    · rw [if_neg fun hin ↦ (hguard.1 hin).elim hauthorized h, if_neg (by simp [hauthorized])]
      trivial

/-- An end of a cycle the workflow knows from one state only agrees, but for the other states the
table ends. -/
theorem ended_agrees {start : PersistedPublicationState} {status : ReplyStatus}
    {errorClass : PublicationFailureClass} (rep : Represents reply oracle) (kept : reply.Kept)
    (mayEnd : (start = .authorized ∧ errorClass ≠ .ambiguous) ∨ start = .sending ∨
      start = .ambiguous)
    (startStatus : reply.row.publicationState = some start → reply.row.status = status)
    (same : ∀ state, state = .authorized ∨ state = .sending ∨ state = .ambiguous →
      reply.row.publicationState = some state → state = start) :
    Agrees ((terminalRow reply errorClass).map some)
      ((if Oracle.isIn oracle status [start] then some (Oracle.failed oracle errorClass)
        else none).map some) := by
  by_cases h : reply.row.publicationState = some start
  · rw [if_pos ((rep.isIn _ _).2 ⟨startStatus h, _, by simp, h⟩)]
    exact failed_agrees rep kept h mayEnd
  · rw [if_neg (by rw [rep.isIn]; simpa using fun _ ↦ h), terminalRow_eq_none kept]
    · trivial
    · refine ⟨fun h' ↦ h ?_, fun h' ↦ h ?_, fun h' ↦ h ?_⟩
      · rw [← same _ (Or.inl rfl) h', h']
      · rw [← same _ (Or.inr (Or.inl rfl)) h', h']
      · rw [← same _ (Or.inr (Or.inr rfl)) h', h']

/-- Every publication event is accepted by both or by neither, and leaves states that represent
each other, but for the starts the shared table gives it beyond the workflow's own. -/
theorem event_agrees (event : PublicationEvent) (rep : Represents reply oracle)
    (kept : reply.Kept) (read : Matches evidence circumstances)
    (same : startsDiffer reply.row event = false) :
    Agrees ((productionEvent reply circumstances event).map some)
      ((workflowEvent oracle evidence event).map some) := by
  have hsending : reply.row.publicationState = some .sending → reply.row.status = .approved :=
    fun h ↦ kept.approved (Or.inr (Or.inl h))
  cases event with
  | cancel => exact cancel_agrees rep kept same
  | claim => exact claim_agrees rep kept read
  | providerAccepted => exact providerAccepted_agrees rep kept
  | requeue => exact requeue_agrees rep kept
  | failNotSent =>
      refine ended_agrees rep kept (Or.inr (Or.inl rfl)) hsending ?_
      rintro state (rfl | rfl | rfl) h <;> simp [startsDiffer, h] at same ⊢
  | failRejected =>
      refine ended_agrees rep kept (Or.inr (Or.inl rfl)) hsending ?_
      rintro state (rfl | rfl | rfl) h <;> simp [startsDiffer, h] at same ⊢
  | failUnknown => exact failUnknown_agrees rep kept
  | confirm => exact confirm_agrees rep kept
  | settleUnclaimed =>
      refine ended_agrees rep kept (Or.inl ⟨rfl, by simp⟩) (fun h ↦ kept.approved (Or.inl h)) ?_
      rintro state (rfl | rfl | rfl) h <;> simp [startsDiffer, h] at same ⊢
  | settleNeverSent => exact settleNeverSent_agrees rep kept
  | endChecks =>
      refine ended_agrees rep kept (Or.inr (Or.inr rfl)) (fun h ↦ kept.failed (Or.inr h)) ?_
      rintro state (rfl | rfl | rfl) h <;> simp [startsDiffer, h] at same ⊢
  | supersede => exact supersede_agrees rep kept same

/-- From a start the two give an event differently, one accepts it and the other refuses: provider
truth leaves what the workflow takes back, and the table ends what the workflow lets stand. -/
theorem event_differs (event : PublicationEvent) (rep : Represents reply oracle)
    (kept : reply.Kept) (differ : startsDiffer reply.row event = true) :
    (productionEvent reply circumstances event).isSome =
      !(workflowEvent oracle evidence event).isSome := by
  have hin : ∀ {status publications}, Oracle.isIn oracle status publications = true →
      ∃ state ∈ publications, reply.row.publicationState = some state :=
    fun h ↦ ((rep.isIn _ _).1 h).2
  have hended : ∀ {start : PersistedPublicationState} {status errorClass},
      (∃ state, reply.row.publicationState = some state ∧
        (state = .authorized ∨ state = .sending ∨ state = .ambiguous) ∧ state ≠ start) →
      (terminalRow reply errorClass).isSome =
        !(if Oracle.isIn oracle status [start] then some (Oracle.failed oracle errorClass)
          else none).isSome := by
    rintro start status errorClass ⟨state, hstate, hmay, hne⟩
    have hout : ¬Oracle.isIn oracle status [start] = true := by
      intro h
      obtain ⟨other, hmem, hother⟩ := hin h
      rw [List.mem_singleton.1 hmem, hstate] at hother
      exact hne (Option.some.inj hother)
    rw [terminalRow_eq_some hstate hmay, if_neg hout]
    rfl
  cases event with
  | cancel =>
      have h : reply.row.publicationState = some .pendingObservation := by
        simpa [startsDiffer] using differ
      have hcancel : cancelledPublication reply.row = some cancelledReplySet := by
        unfold cancelledPublication
        rw [h]
        rfl
      simp only [productionEvent, workflowEvent, afterPublicationEvent]
      rw [hcancel, Option.bind_some, publicationRow_eq_some h rfl rfl, if_neg]
      · rfl
      · intro hguard
        obtain ⟨state, hmem, hstate⟩ := hin hguard
        rw [h] at hstate
        cases hstate
        simp at hmem
  | failNotSent | failRejected =>
      simp only [startsDiffer, Bool.or_eq_true, beq_iff_eq] at differ
      rcases differ with h | h <;> exact hended ⟨_, h, by simp, by simp⟩
  | settleUnclaimed =>
      simp only [startsDiffer, Bool.or_eq_true, beq_iff_eq] at differ
      rcases differ with h | h <;> exact hended ⟨_, h, by simp, by simp⟩
  | endChecks =>
      simp only [startsDiffer, Bool.or_eq_true, beq_iff_eq] at differ
      rcases differ with h | h <;> exact hended ⟨_, h, by simp, by simp⟩
  | supersede =>
      simp only [startsDiffer, Bool.and_eq_true, beq_iff_eq, decide_eq_true_eq] at differ
      obtain ⟨h, hattempts⟩ := differ
      simp only [productionEvent, workflowEvent, afterPublicationEvent, supersedeRow]
      have hopen : reply.hasOpenAttempt = false := by
        refine kept.closed ?_
        simp [Reply.awaitsAnswer, isUncertainPublicationState, endedWithoutAnAnswer, h]
      rw [if_neg (by simp [hopen]), if_neg (by simp; omega), if_pos]
      · rfl
      · rw [Bool.or_eq_true, rep.isIn]
        exact Or.inl ⟨kept.approved (Or.inl h), _, by simp, h⟩
  | claim | providerAccepted | requeue | failUnknown | confirm | settleNeverSent =>
      simp [startsDiffer] at differ

end ReputationKey.Review
