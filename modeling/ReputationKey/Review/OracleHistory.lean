import ReputationKey.Base.Run
import ReputationKey.Review.OracleEvents

/-!
# Whole histories of production and of the workflow

Guest edits, withdrawals and refused claims agree as commands and events do. A history walks both:
each takes the step if it accepts it and stays where it is if not. As long as no event is asked
from a start the two give it differently, both accept the same steps and keep representing each
other; production never leaves the legal states in any history.
-/

namespace ReputationKey.Review

open Oracle (OracleReply OracleState ManagerCommand CommandEvidence PublicationEvent ReplyOnScreen
  AiDraftPurgeScope managerVerdict)
open ReputationKey.Base

variable {reply : ReplyInPublication} {oracle : OracleReply} {circumstances : Circumstances}
  {evidence : CommandEvidence}

/-! ## Guest edits and withdrawals -/

/-- An AI-assisted reply is the same on both sides. -/
theorem Represents.aiAssisted (rep : Represents reply oracle) :
    oracle.authorship = .aiAssisted ↔ reply.row.aiGenerated = true := by
  rw [rep.authorship]
  unfold authorshipOf
  cases reply.row.aiGenerated <;> simp

/-- What a withdrawal leaves of an AI reply is the same empty draft on both sides. -/
theorem withdrawn_agrees {row : Reply} {outcome : Option AttemptOutcome}
    (rep : Represents reply oracle) (kept : reply.Kept)
    (inCycle : reply.row.publicationState ≠ none)
    (cycle : row.publicationCycle = reply.row.publicationCycle)
    (attempts : row.publicationAttempts = reply.row.publicationAttempts)
    (closed : outcome.any isOpenAttemptOutcome = false) (old : Reply) :
    Agrees (some (some ⟨applyReplyTrigger old (emptiedByWithdrawal row), outcome⟩))
      (some (some (Oracle.withdrawn oracle))) := by
  refine agrees_some ⟨rfl, rfl, ?_, ?_, ?_, rfl, rfl⟩ ⟨?_, ?_, ?_, ?_, Or.inr ⟨rfl, rfl⟩⟩
  · simp [applyReplyTrigger, emptiedByWithdrawal]
  · exact rep.cycle.trans cycle.symm
  · exact rep.attempts.trans attempts.symm
  · rfl
  · simp [attemptMatches, applyReplyTrigger, emptiedByWithdrawal, closed]
  · intro _
    rw [show (applyReplyTrigger old (emptiedByWithdrawal row)).publicationCycle =
      reply.row.publicationCycle from cycle]
    exact kept.cycled inCycle
  · intro h
    simp [Reply.awaitsAnswer, isUncertainPublicationState, endedWithoutAnAnswer,
      applyReplyTrigger, emptiedByWithdrawal] at h

/-- The last gate refuses the same AI text on both sides, and leaves the same draft. -/
theorem refusedClaim_agrees (rep : Represents reply oracle) (kept : reply.Kept) :
    Agrees ((refusedClaimRow reply).map some) ((Oracle.afterRefusedClaim oracle).map some) := by
  unfold refusedClaimRow Oracle.afterRefusedClaim
  by_cases hai : reply.row.aiGenerated = true
  · by_cases h : reply.row.publicationState = some .authorized
    · have hstatus := kept.approved (Or.inl h)
      rw [if_neg (show ¬(!reply.row.aiGenerated) = true by simp [hai]),
        if_pos ⟨(rep.isIn _ _).2 ⟨hstatus, _, by simp, h⟩, rep.aiAssisted.2 hai⟩,
        cancelledPublication_of_open (Or.inl h), Option.bind_some,
        publicationRow_eq_some h rfl hstatus, Option.map_some, Option.map_some]
      refine withdrawn_agrees rep kept (by simp [h]) rfl rfl ?_ _
      split
      · rfl
      · exact kept.closed (by
          simp [Reply.awaitsAnswer, isUncertainPublicationState, endedWithoutAnAnswer, h])
    · rw [if_neg (show ¬(Oracle.isIn oracle .approved [.authorized] = true ∧
        oracle.authorship = .aiAssisted) by rw [rep.isIn]; simp [h]), if_neg (by simp [hai])]
      cases hcancel : cancelledPublication reply.row with
      | none => trivial
      | some cancellation =>
          rw [Option.bind_some, publicationRow_eq_none (by simpa using h)]
          trivial
  · rw [if_neg (show ¬(Oracle.isIn oracle .approved [.authorized] = true ∧
      oracle.authorship = .aiAssisted) from fun h ↦ hai (rep.aiAssisted.1 h.2)),
      if_pos (by simpa using hai)]
    trivial

/-- The AI draft purge deletes, empties and leaves the same replies on both sides. -/
theorem aiDraftPurge_agrees (rep : Represents reply oracle) (kept : reply.Kept)
    (scope : AiDraftPurgeScope) (pastItsWindow : Bool) :
    Agrees (some (purgeRow (some reply) scope pastItsWindow))
      (some (Oracle.afterAiDraftPurge (some oracle) scope pastItsWindow)) := by
  simp only [purgeRow, Oracle.afterAiDraftPurge]
  by_cases hai : reply.row.aiGenerated = true
  · rw [if_neg (by simp [hai]), if_neg (not_not.2 (rep.aiAssisted.2 hai))]
    by_cases hwindow : scope = .repliesPastTheirWindow ∧ (!pastItsWindow) = true
    · rw [if_pos hwindow, if_pos hwindow]
      exact agrees_some rep kept
    · rw [if_neg hwindow, if_neg hwindow, rep.publication]
      by_cases hnone : reply.row.publicationState = none
      · rw [if_pos hnone, if_pos hnone]
        exact ⟨.none, by rintro _ ⟨⟩⟩
      · rw [if_neg hnone, if_neg hnone]
        have hconfirmed : Oracle.confirmedAndNotDispatched oracle = true ↔
            reply.row.publicationState = some .authorized ∨
              reply.row.publicationState = some .cancelled := by
          unfold Oracle.confirmedAndNotDispatched
          rw [Bool.or_eq_true, rep.isIn, rep.publication, rep.status]
          rcases kept.cases with ⟨h | h, h', h''⟩ | ⟨h, hs⟩ | ⟨h, hs⟩ | ⟨h, hs⟩ | ⟨h, hs⟩ |
            ⟨h, hs⟩ | ⟨h, hs⟩
          · exact absurd h hnone
          · rcases (Reply.isLegal_iff _).1 kept.legal with ⟨-, hl⟩ | ⟨-, hl⟩ | ⟨hl, -⟩ | ⟨hl, -⟩
            · simp only [h, beq_self_eq_true, Bool.true_and, or_true, iff_true]
              right
              simpa [Bool.or_eq_true, or_assoc] using hl
            · exact absurd hl h'
            · simp [h] at hl
            · simp [h] at hl
          all_goals simp [h, hs]
        by_cases hopen : reply.row.publicationState = some .authorized
        · rw [if_pos (hconfirmed.2 (Or.inl hopen)), if_pos (by
            simp [isUndispatchedOpenCycle, hopen])]
          refine withdrawn_agrees rep kept hnone rfl rfl ?_ _
          cases reply.outcome <;> rfl
        · rw [if_neg (by simp [isUndispatchedOpenCycle, hopen, kept.not_requested])]
          by_cases hback : reply.row.publicationState = some .cancelled
          · rw [if_pos (hconfirmed.2 (Or.inr hback)), if_pos]
            · exact withdrawn_agrees rep kept hnone rfl rfl (kept.closed (by
                simp [Reply.awaitsAnswer, isUncertainPublicationState, endedWithoutAnAnswer,
                  hback])) _
            · rcases (Reply.isLegal_iff _).1 kept.legal with ⟨-, hl⟩ | ⟨hl, -⟩ | ⟨hl, -⟩ | ⟨hl, -⟩
              · unfold isBackAfterCancelledCycle
                rcases hl with hl | hl | hl <;> simp [hback, hl]
              all_goals simp [hback] at hl
          · rw [if_neg fun h ↦ (hconfirmed.1 h).elim hopen hback, if_neg (by
              simp [isBackAfterCancelledCycle, hback])]
            exact agrees_some rep kept
  · rw [if_pos (by simpa using hai), if_pos fun h ↦ hai (rep.aiAssisted.1 h)]
    exact agrees_some rep kept

/-- A guest edit takes the same replies back on both sides. -/
theorem guestEdit_agrees (rep : Represents reply oracle) (kept : reply.Kept) :
    Agrees ((guestEditRow reply).map some) ((Oracle.afterGuestEdit oracle).map some) := by
  unfold guestEditRow Oracle.afterGuestEdit takenBackByGuestEdit
  have hhuman : oracle.authorship = .human ↔ reply.row.aiGenerated = false := by
    rw [rep.authorship]
    unfold authorshipOf
    cases reply.row.aiGenerated <;> simp
  by_cases hai : reply.row.aiGenerated = true
  · rw [if_pos hai, if_pos fun h ↦ by simp [hhuman.1 h] at hai]
    trivial
  · rw [if_neg hai, if_neg (not_not.2 (hhuman.2 (by simpa using hai)))]
    by_cases hpending : reply.row.status = .pendingApproval ∧
        (reply.row.publicationState = none ∨ reply.row.publicationState = some .cancelled)
    · have hsendable := kept.sendable (by simp [hpending.1])
      have hworkflow : oracle.status = .pendingApproval ∧
          Oracle.outsidePublication oracle = true :=
        ⟨rep.status.trans hpending.1, rep.outsidePublication.2 hpending.2⟩
      rw [if_pos ((mayStart_approve_iff _).2 hpending), if_pos hworkflow, Option.map_some,
        Option.map_some]
      refine agrees_some ⟨rfl, ?_, ?_, rep.cycle, rep.attempts, rep.text, rep.authorship⟩
        (kept.rewritten hpending.2 ?_ rfl (Or.inl rfl) (Or.inl hsendable))
      · change oracle.publication = if reply.row.publicationState = none then none else _
        rw [rep.publication]
        rcases hpending.2 with h | h <;> simp [h]
      · intro h
        rcases hpending.2 with h' | h' <;> simp [applyReplyTrigger, h'] at h
      · change (if reply.row.publicationState = none then none
          else some PersistedPublicationState.cancelled) = _
        rcases hpending.2 with h | h <;> simp [h]
    · have hnotPending : ¬(oracle.status = .pendingApproval ∧
          Oracle.outsidePublication oracle = true) := by
        rw [rep.status, rep.outsidePublication]
        exact hpending
      rw [if_neg fun h ↦ hpending ((mayStart_approve_iff _).1 h), if_neg hnotPending, rep.status,
        rep.publication]
      by_cases hfailed : reply.row.status = .publishFailed ∧
          reply.row.publicationState = some .terminal
      · rw [if_neg (by simp [isAtCommandStart, replyCommandStarts, hfailed]), if_pos hfailed,
          Option.map_some, Option.map_some]
        refine @cancelled_agrees reply oracle _ none rep kept (by simp [hfailed.2])
          (by simp [hfailed.1]) ?_
        -- The attempt of a cycle that ended without an answer is the only one still open.
        by_cases hunanswered : endedWithoutAnAnswer reply.row = true
        · rw [if_pos ⟨hunanswered, kept.counted (by simp [Reply.awaitsAnswer, hunanswered])⟩]
          cases reply.outcome <;> rfl
        · rw [if_neg fun h ↦ hunanswered h.1]
          exact kept.closed (by
            simp [Reply.awaitsAnswer, isUncertainPublicationState, hfailed.2, hunanswered])
      · rw [if_neg hfailed, if_pos]
        · trivial
        · simpa [isAtCommandStart, replyCommandStarts, ← not_and_or] using hfailed


/-! ## Histories -/

/-- One step of a history. -/
inductive HistoryStep
  | command (command : ManagerCommand) (circumstances : Circumstances)
  | event (event : PublicationEvent) (circumstances : Circumstances)
  | refusedClaim
  | aiDraftPurge (scope : AiDraftPurgeScope) (pastItsWindow : Bool)
  | guestEdit
  deriving DecidableEq

/-- The evidence the workflow judges a step on: what the transactions read, and the reply stored. -/
def evidenceOf (stored : Option ReplyInPublication) (circumstances : Circumstances) :
    CommandEvidence :=
  { provablyNeverSent := circumstances.provablyNeverSent
    aiBindingCurrent := circumstances.bindingIsCurrent
    aiInputsCurrent := circumstances.inputsAreCurrent
    textClaimedBefore := circumstances.textClaimedBefore
    stored := stored.map fun reply ↦ ⟨reply.row.id, reply.row.stateRevision⟩ }

/-- What production leaves after a step; `none` when it refuses it. -/
def productionStep (stored : Option ReplyInPublication) :
    HistoryStep → Option (Option ReplyInPublication)
  | .command command circumstances => productionCommand stored command circumstances
  | .event event circumstances =>
      stored.bind fun reply ↦ (productionEvent reply circumstances event).map some
  | .refusedClaim => stored.bind fun reply ↦ (refusedClaimRow reply).map some
  | .aiDraftPurge scope pastItsWindow => some (purgeRow stored scope pastItsWindow)
  | .guestEdit => stored.bind fun reply ↦ (guestEditRow reply).map some

/-- What the workflow leaves after a step; `none` when it refuses it. -/
def oracleStep (stored : Option ReplyInPublication) (state : OracleState) :
    HistoryStep → Option OracleState
  | .command command circumstances =>
      (managerVerdict state command (evidenceOf stored circumstances)).toOption
  | .event event circumstances =>
      state.bind fun oracle ↦
        (workflowEvent oracle (evidenceOf stored circumstances) event).map some
  | .refusedClaim => state.bind fun oracle ↦ (Oracle.afterRefusedClaim oracle).map some
  | .aiDraftPurge scope pastItsWindow =>
      some (Oracle.afterAiDraftPurge state scope pastItsWindow)
  | .guestEdit => state.bind fun oracle ↦ (Oracle.afterGuestEdit oracle).map some

/-- A text a step types is one a manager can save. -/
def HistoryStep.typesReplyText : HistoryStep → Bool
  | .command (.draft text) _ | .command (.adoptAi text) _ | .command (.edit text) _ =>
      isReplyText text
  | _ => true

/-- Whether a step is an event asked from a start the two give it differently. -/
def HistoryStep.startsDifferFrom (stored : Option ReplyInPublication) : HistoryStep → Bool
  | .event asked _ => stored.any fun reply ↦ startsDiffer reply.row asked
  | _ => false

/-- Production and the workflow side by side. -/
abbrev SideBySide := Option ReplyInPublication × OracleState

/-- Both represent the same reply, kept as the stores keep it, or neither has one. -/
structure Alike (s : SideBySide) : Prop where
  represents : Option.Rel Represents s.1 s.2
  kept : ∀ reply, s.1 = some reply → reply.Kept

/-- Both after a step: each takes it or stays where it is. -/
def afterStep (s : SideBySide) (step : HistoryStep) : SideBySide :=
  ((productionStep s.1 step).getD s.1, (oracleStep s.1 s.2 step).getD s.2)

/-- Histories from any reply the two have alike. -/
def sideBySide : ReadSystem SideBySide HistoryStep where
  init := Alike
  step _ s step s' := s' = afterStep s step

/-- A command without a reply creates the same draft on both sides or is refused by both. -/
theorem command_agrees_none (command : ManagerCommand)
    (typed : (HistoryStep.command command circumstances).typesReplyText = true) :
    Agrees (productionCommand none command circumstances)
      (managerVerdict none command evidence).toOption := by
  have hsendable : ∀ text, isReplyText text = true → replyCommentProblem text = none := by
    intro text h
    have h' : replyCommentProblem text = none ∧ trim text = text := by simpa [isReplyText] using h
    exact h'.1
  have hdraft : ∀ text aiGenerated origin, replyCommentProblem text = none →
      Agrees (some (some ⟨draftRow circumstances.newId text aiGenerated origin, none⟩))
        (some (some (Oracle.newDraft text (authorshipOf aiGenerated)))) := by
    intro text aiGenerated origin htext
    refine agrees_some ⟨rfl, rfl, ?_, rfl, rfl, rfl, rfl⟩ ⟨rfl, rfl, ?_, ?_, Or.inl htext⟩
    · simp [draftRow]
    · simp [draftRow]
    · simp [draftRow, Reply.awaitsAnswer, isUncertainPublicationState, endedWithoutAnAnswer]
  cases command with
  | draft text =>
      simp only [productionCommand]
      rw [if_neg (not_not.2 (hsendable text typed))]
      exact hdraft text false none (hsendable text typed)
  | adoptAi text =>
      simp only [productionCommand]
      rw [if_neg (not_not.2 (hsendable text typed))]
      exact hdraft text true (some circumstances.operationId) (hsendable text typed)
  | submit | approve | reject | retry | edit | delete => trivial

/-- A command on a reply is accepted by both or by neither. -/
theorem command_agrees_some (command : ManagerCommand) (rep : Represents reply oracle)
    (kept : reply.Kept)
    (typed : (HistoryStep.command command circumstances).typesReplyText = true) :
    Agrees (productionCommand (some reply) command circumstances)
      (managerVerdict (some oracle) command
        (evidenceOf (some reply) circumstances)).toOption := by
  have hsendable : ∀ text, isReplyText text = true → replyCommentProblem text = none := by
    intro text h
    have h' : replyCommentProblem text = none ∧ trim text = text := by simpa [isReplyText] using h
    exact h'.1
  cases command with
  | draft text => exact draft_agrees rep kept (hsendable text typed)
  | adoptAi text => exact adopt_agrees rep kept (hsendable text typed)
  | submit => exact submit_agrees rep kept rfl
  | approve onScreen => exact approve_agrees rep kept rfl rfl
  | reject => exact reject_agrees rep kept
  | retry => exact retry_agrees rep kept rfl
  | edit text => exact edit_agrees rep kept typed
  | delete => exact delete_agrees rep

/-- A step is accepted by both or by neither, and leaves them alike, but for an event asked from a
start the two give it differently. -/
theorem step_agrees {s : SideBySide} (alike : Alike s) (step : HistoryStep)
    (typed : step.typesReplyText = true) (same : step.startsDifferFrom s.1 = false) :
    Agrees (productionStep s.1 step) (oracleStep s.1 s.2 step) := by
  obtain ⟨stored, state⟩ := s
  obtain ⟨hrep, hkept⟩ := alike
  cases hrep with
  | none =>
      cases step with
      | command command circumstances => exact command_agrees_none command typed
      | event | refusedClaim | guestEdit => trivial
      | aiDraftPurge scope pastItsWindow => exact ⟨.none, by rintro _ ⟨⟩⟩
  | some rep =>
      have kept := hkept _ rfl
      cases step with
      | command command circumstances => exact command_agrees_some command rep kept typed
      | event event circumstances =>
          simp only [HistoryStep.startsDifferFrom, Option.any_some] at same
          exact event_agrees event rep kept ⟨rfl, rfl, rfl, rfl⟩ same
      | refusedClaim => exact refusedClaim_agrees rep kept
      | aiDraftPurge scope pastItsWindow =>
          exact aiDraftPurge_agrees rep kept scope pastItsWindow
      | guestEdit => exact guestEdit_agrees rep kept

/-- From a start the two give an event differently, exactly one of them accepts it. -/
theorem step_differs {s : SideBySide} (alike : Alike s) (step : HistoryStep)
    (differ : step.startsDifferFrom s.1 = true) :
    (productionStep s.1 step).isSome = !(oracleStep s.1 s.2 step).isSome := by
  obtain ⟨stored, state⟩ := s
  obtain ⟨hrep, hkept⟩ := alike
  cases step with
  | command | refusedClaim | aiDraftPurge | guestEdit => cases differ
  | event event circumstances =>
      cases hrep with
      | none => cases differ
      | some rep =>
          simp only [HistoryStep.startsDifferFrom, Option.any_some] at differ
          simpa [productionStep, oracleStep] using event_differs event rep (hkept _ rfl) differ

/-- Two that agree on a step accept it alike and are alike after it. -/
theorem alike_afterStep {s : SideBySide} (alike : Alike s) {step : HistoryStep}
    (agrees : Agrees (productionStep s.1 step) (oracleStep s.1 s.2 step)) :
    (productionStep s.1 step).isSome = (oracleStep s.1 s.2 step).isSome ∧
      Alike (afterStep s step) := by
  unfold afterStep
  generalize productionStep s.1 step = production at agrees ⊢
  generalize oracleStep s.1 s.2 step = workflow at agrees ⊢
  cases production with
  | none =>
      cases workflow with
      | none => exact ⟨rfl, alike⟩
      | some next => exact absurd agrees id
  | some stored =>
      cases workflow with
      | none => exact absurd agrees id
      | some next => exact ⟨rfl, agrees.1, agrees.2⟩

/-! ## Legal states -/

/-- Whether a stored reply, if there is one, is in a state the workflow lists. -/
def LegalState (stored : Option ReplyInPublication) : Prop :=
  ∀ reply, stored = some reply → reply.row.isLegal

/-- A command guarded by its start leaves a legal reply when its set clause does. -/
theorem commandRow_legal {row saved : Reply} {command : ReplyCommand} {bindingIsCurrent : Bool}
    {updates : Reply → Reply} (h : commandRow row command bindingIsCurrent updates = some saved)
    (legal : replyCommandMayStart command row → (updates row).isLegal) : saved.isLegal := by
  rw [commandRow_eq] at h
  split at h
  · next hguard =>
      cases h
      have hupdates := legal hguard.1
      unfold replySetClause
      split <;> exact hupdates
  · cases h

/-- An authorizing write leaves a legal reply. -/
theorem authorizedSet_legal {cycle : Nat} {occurredAt : Int} {updates : Reply → Reply}
    {row : Reply} (approved : (updates row).status = .approved) :
    (authorizedSet cycle occurredAt updates row).isLegal := by
  rw [Reply.isLegal_iff]
  exact Or.inr (Or.inl ⟨Or.inl rfl, approved⟩)

/-- Approval and retry leave a legal reply. -/
theorem authorizeRow_legal {row : Reply} {command : ReplyCommand} {saved : ReplyInPublication}
    (h : authorizeRow row command circumstances = some saved) : saved.row.isLegal := by
  unfold authorizeRow at h
  split at h
  · cases h
  · obtain ⟨written, hwritten, rfl⟩ := Option.map_eq_some_iff.1 h
    exact commandRow_legal hwritten fun _ ↦ authorizedSet_legal rfl

/-- A guarded publication write leaves a legal reply when its set clause does. -/
theorem publicationRow_legal {row saved : Reply} {expectedStatus : ReplyStatus}
    {allowedStates : List PersistedPublicationState} {set : Reply → Reply}
    (h : publicationRow row expectedStatus allowedStates set = some saved)
    (legal : row.publicationState.any allowedStates.contains → row.status = expectedStatus →
      (set row).isLegal) : saved.isLegal := by
  unfold publicationRow at h
  split at h
  · next hguard =>
      cases h
      rw [Bool.and_eq_true, beq_iff_eq] at hguard
      exact legal hguard.1 hguard.2
  · cases h

/-- A transition of the table leaves a legal reply when its set clause does. -/
theorem transitionRow_legal {row saved : Reply} {event : PublicationStateEvent}
    {allowedStates : List PersistedPublicationState}
    {set : PersistedPublicationState → Reply → Reply}
    (h : transitionRow row event allowedStates set = some saved)
    (legal : ∀ target, nextPublicationState row.publicationState event = some target →
      row.publicationState.any allowedStates.contains → (set target row).isLegal) :
    saved.isLegal := by
  unfold transitionRow at h
  obtain ⟨target, htarget, hrow⟩ := Option.bind_eq_some_iff.1 h
  exact publicationRow_legal hrow fun hstate _ ↦ legal target htarget hstate

/-- A reply outside publication is legal in any status before approval. -/
theorem isLegal_outside {row : Reply}
    (status : row.status = .draft ∨ row.status = .pendingApproval ∨ row.status = .rejected)
    (outside : row.publicationState = none ∨ row.publicationState = some .cancelled) :
    row.isLegal :=
  (Reply.isLegal_iff row).2 (Or.inl ⟨outside, status⟩)

/-- A legal unsubmitted reply is outside publication. -/
theorem outside_of_isLegal {row : Reply} (legal : row.isLegal)
    (status : row.status = .draft ∨ row.status = .rejected) :
    row.publicationState = none ∨ row.publicationState = some .cancelled := by
  rcases (Reply.isLegal_iff _).1 legal with ⟨h, -⟩ | ⟨-, h⟩ | ⟨-, h⟩ | ⟨-, h⟩
  · exact h
  all_goals rw [h] at status; simp at status

/-- An accepted command on a legal reply leaves a legal one. -/
theorem productionCommand_legal {command : ManagerCommand} {next : Option ReplyInPublication}
    (legal : reply.row.isLegal)
    (h : productionCommand (some reply) command circumstances = some next) : LegalState next := by
  cases command with
  | draft text =>
      simp only [productionCommand] at h
      split at h
      · cases h
      · obtain ⟨saved, hsaved, rfl⟩ := Option.map_eq_some_iff.1 h
        rintro _ ⟨rfl⟩
        exact commandRow_legal hsaved fun hstart ↦
          isLegal_outside (Or.inl rfl) (replyCommandMayStart_saveDraft hstart).2
  | adoptAi text =>
      simp only [productionCommand] at h
      split at h
      · cases h
      · split at h
        · next hstatus =>
            have houtside := outside_of_isLegal legal hstatus
            cases h
            rintro _ ⟨rfl⟩
            exact isLegal_outside (Or.inl rfl) houtside
        · cases h
  | submit =>
      simp only [productionCommand] at h
      split at h
      · cases h
      · obtain ⟨saved, hsaved, rfl⟩ := Option.map_eq_some_iff.1 h
        rintro _ ⟨rfl⟩
        exact commandRow_legal hsaved fun hstart ↦
          isLegal_outside (Or.inr (Or.inl rfl)) (replyCommandMayStart_submit hstart).2
  | approve onScreen =>
      simp only [productionCommand] at h
      split at h
      · cases h
      · obtain ⟨saved, hsaved, rfl⟩ := Option.map_eq_some_iff.1 h
        rintro _ ⟨rfl⟩
        exact authorizeRow_legal hsaved
  | reject =>
      obtain ⟨saved, hsaved, rfl⟩ := Option.map_eq_some_iff.1 h
      rintro _ ⟨rfl⟩
      exact commandRow_legal hsaved fun hstart ↦
        isLegal_outside (Or.inr (Or.inr rfl)) (replyCommandMayStart_reject hstart).2
  | retry =>
      obtain ⟨saved, hsaved, rfl⟩ := Option.map_eq_some_iff.1 h
      rintro _ ⟨rfl⟩
      unfold retryRow at hsaved
      split at hsaved
      · cases hsaved
        exact legal
      · split at hsaved
        · obtain ⟨settled, -, hauthorized⟩ := Option.bind_eq_some_iff.1 hsaved
          exact authorizeRow_legal hauthorized
        · exact authorizeRow_legal hsaved
  | edit text =>
      obtain ⟨saved, hsaved, rfl⟩ := Option.map_eq_some_iff.1 h
      rintro _ ⟨rfl⟩
      simp only [editRow] at hsaved
      split at hsaved
      · cases hsaved
      · split at hsaved
        · cases hsaved
          exact legal
        · obtain ⟨written, hwritten, rfl⟩ := Option.map_eq_some_iff.1 hsaved
          exact commandRow_legal hwritten fun _ ↦ authorizedSet_legal rfl
  | delete =>
      simp only [productionCommand] at h
      split at h
      · cases h
        rintro _ ⟨⟩
      · cases h

/-- A cancellation leaves a draft. -/
theorem cancelledPublication_legal {row : Reply} {cancellation : Reply → Reply}
    (h : cancelledPublication row = some cancellation) : (cancellation row).isLegal := by
  unfold cancelledPublication at h
  split at h
  · cases h
    exact isLegal_outside (Or.inl rfl) (Or.inr rfl)
  · cases h

/-- An accepted publication event on a legal reply leaves a legal one. -/
theorem productionEvent_legal {event : PublicationEvent} {next : ReplyInPublication}
    (legal : reply.row.isLegal) (h : productionEvent reply circumstances event = some next) :
    next.row.isLegal := by
  have hfailed : ∀ {row : Reply}, row.status = .publishFailed →
      row.publicationState = some .terminal ∨ row.publicationState = some .ambiguous →
      row.isLegal :=
    fun status state ↦ (Reply.isLegal_iff _).2 (Or.inr (Or.inr (Or.inr ⟨state, status⟩)))
  have hopen : ∀ {row : Reply}, row.status = .approved →
      row.publicationState = some .authorized ∨ row.publicationState = some .sending ∨
        row.publicationState = some .pendingObservation → row.isLegal :=
    fun status state ↦ (Reply.isLegal_iff _).2 (Or.inr (Or.inl ⟨state, status⟩))
  have hterminal : ∀ {errorClass}, terminalRow reply errorClass = some next →
      next.row.isLegal := by
    intro errorClass hrow
    obtain ⟨saved, hsaved, rfl⟩ := Option.map_eq_some_iff.1 hrow
    exact transitionRow_legal hsaved fun target htarget _ ↦
      hfailed rfl (Or.inl (congrArg some (nextPublicationState_failTerminal _ _ htarget)))
  cases event with
  | cancel =>
      obtain ⟨cancellation, hcancel, hrow⟩ := Option.bind_eq_some_iff.1 h
      obtain ⟨saved, hsaved, rfl⟩ := Option.map_eq_some_iff.1 hrow
      exact publicationRow_legal hsaved fun _ _ ↦ cancelledPublication_legal hcancel
  | claim =>
      simp only [productionEvent] at h
      split at h
      · cases h
      · obtain ⟨saved, hsaved, rfl⟩ := Option.map_eq_some_iff.1 h
        exact publicationRow_legal hsaved fun _ hstatus ↦ hopen hstatus (Or.inr (Or.inl rfl))
  | providerAccepted =>
      obtain ⟨saved, hsaved, rfl⟩ := Option.map_eq_some_iff.1 h
      refine transitionRow_legal hsaved fun target htarget _ ↦ ?_
      obtain ⟨hsending, rfl⟩ := (nextPublicationState_providerAccepted _ _).1 htarget
      refine hopen ?_ (Or.inr (Or.inr rfl))
      rcases (Reply.isLegal_iff _).1 legal with ⟨h', -⟩ | ⟨-, h'⟩ | ⟨h', -⟩ | ⟨h', -⟩
      · simp [hsending] at h'
      · exact h'
      · simp [hsending] at h'
      · simp [hsending] at h'
  | requeue =>
      obtain ⟨target, htarget, hrow⟩ := Option.bind_eq_some_iff.1 h
      obtain ⟨saved, hsaved, rfl⟩ := Option.map_eq_some_iff.1 hrow
      obtain ⟨-, rfl⟩ := (nextPublicationState_requeue _ _).1 htarget
      exact publicationRow_legal hsaved fun _ hstatus ↦ hopen hstatus (Or.inl rfl)
  | failNotSent | failRejected | settleUnclaimed | endChecks => exact hterminal h
  | failUnknown =>
      obtain ⟨saved, hsaved, rfl⟩ := Option.map_eq_some_iff.1 h
      exact transitionRow_legal hsaved fun target htarget _ ↦
        hfailed rfl (Or.inr (congrArg some (nextPublicationState_failAmbiguous _ _ htarget)))
  | confirm =>
      simp only [productionEvent, confirmRow] at h
      split at h
      · cases h
        exact (Reply.isLegal_iff _).2 (Or.inr (Or.inr (Or.inl ⟨rfl, rfl⟩)))
      · cases h
  | settleNeverSent =>
      simp only [productionEvent, settleRow] at h
      split at h
      · cases h
      · cases h
        exact hfailed rfl (Or.inl rfl)
  | supersede =>
      simp only [productionEvent, supersedeRow] at h
      split at h
      · cases h
        exact isLegal_outside (Or.inl rfl) (Or.inr rfl)
      · split at h
        · cases h
          exact isLegal_outside (Or.inl rfl) (Or.inr rfl)
        · cases h

/-- The AI draft purge leaves a legal reply or none. -/
theorem purgeRow_legal {stored : Option ReplyInPublication} {scope : AiDraftPurgeScope}
    {pastItsWindow : Bool} (legal : LegalState stored) :
    LegalState (purgeRow stored scope pastItsWindow) := by
  unfold purgeRow
  split
  · rintro _ ⟨⟩
  · have hemptied : ∀ row outcome,
        LegalState (some ⟨applyReplyTrigger row (emptiedByWithdrawal row), outcome⟩) := by
      rintro row outcome _ ⟨rfl⟩
      exact isLegal_outside (Or.inl rfl) (Or.inr rfl)
    split
    · exact legal
    · split
      · exact legal
      · split
        · rintro _ ⟨⟩
        · split
          · exact hemptied _ _
          · split
            · exact hemptied _ _
            · exact legal

/-- Production leaves a legal reply, or none, after every step it accepts. -/
theorem productionStep_legal {stored next : Option ReplyInPublication} {step : HistoryStep}
    (legal : LegalState stored) (h : productionStep stored step = some next) :
    LegalState next := by
  cases step with
  | command command circumstances =>
      cases stored with
      | some reply => exact productionCommand_legal (legal _ rfl) h
      | none =>
          cases command with
          | draft text | adoptAi text =>
              simp only [productionStep, productionCommand] at h
              split at h
              · cases h
              · cases h
                rintro _ ⟨rfl⟩
                exact isLegal_outside (Or.inl rfl) (Or.inl rfl)
          | submit | approve | reject | retry | edit | delete => cases h
  | event event circumstances =>
      obtain ⟨reply, rfl, hevent⟩ := Option.bind_eq_some_iff.1 h
      obtain ⟨saved, hsaved, rfl⟩ := Option.map_eq_some_iff.1 hevent
      rintro _ ⟨rfl⟩
      exact productionEvent_legal (legal _ rfl) hsaved
  | refusedClaim =>
      obtain ⟨reply, rfl, hrefused⟩ := Option.bind_eq_some_iff.1 h
      obtain ⟨saved, hsaved, rfl⟩ := Option.map_eq_some_iff.1 hrefused
      rintro _ ⟨rfl⟩
      unfold refusedClaimRow at hsaved
      split at hsaved
      · cases hsaved
      · obtain ⟨cancellation, -, hrow⟩ := Option.bind_eq_some_iff.1 hsaved
        obtain ⟨written, -, rfl⟩ := Option.map_eq_some_iff.1 hrow
        exact isLegal_outside (Or.inl rfl) (Or.inr rfl)
  | aiDraftPurge scope pastItsWindow =>
      cases h
      exact purgeRow_legal legal
  | guestEdit =>
      obtain ⟨reply, rfl, hedit⟩ := Option.bind_eq_some_iff.1 h
      obtain ⟨saved, hsaved, rfl⟩ := Option.map_eq_some_iff.1 hedit
      rintro _ ⟨rfl⟩
      obtain ⟨takenBack, htaken, rfl⟩ := Option.map_eq_some_iff.1 hsaved
      unfold takenBackByGuestEdit at htaken
      split at htaken
      · cases htaken
      · split at htaken
        · cases htaken
          refine isLegal_outside (Or.inl rfl) ?_
          change (if _ then none else some PersistedPublicationState.cancelled) = none ∨
            (if _ then none else some PersistedPublicationState.cancelled) = some .cancelled
          split
          · exact Or.inl rfl
          · exact Or.inr rfl
        · split at htaken
          · cases htaken
          · cases htaken
            exact isLegal_outside (Or.inl rfl) (Or.inr rfl)

/-! ## Whole histories -/

variable {h : List (Move SideBySide HistoryStep)} {s : SideBySide}

/-- Production is in a legal state, or has no reply, in every state of every history. -/
theorem history_legal (r : Run sideBySide h s) : LegalState s.1 := by
  refine r.invariant (I := fun s ↦ LegalState s.1) (fun s alike reply present ↦
    (alike.kept reply present).legal) ?_
  rintro h s step s' - legal rfl
  simp only [afterStep]
  cases hstep : productionStep s.1 step with
  | none => exact legal
  | some next => exact productionStep_legal legal hstep

/-- A history that types texts a manager can save and asks no event from a start the two give it
differently keeps the two alike. -/
theorem history_alike (r : Run sideBySide h s)
    (typed : ∀ m ∈ h, m.event.typesReplyText = true)
    (same : ∀ m ∈ h, m.event.startsDifferFrom m.pre.1 = false) : Alike s := by
  induction r with
  | start alike => exact alike
  | @next h s s' step r hstep ih =>
      have alike := ih (fun m hm ↦ typed m (List.mem_cons_of_mem _ hm))
        fun m hm ↦ same m (List.mem_cons_of_mem _ hm)
      have hagrees := step_agrees alike step (typed _ (List.mem_cons_self ..))
        (same _ (List.mem_cons_self ..))
      rw [show s' = afterStep s step from hstep]
      exact (alike_afterStep alike hagrees).2

/-- What a workflow that represents a kept reply shows is legal too. -/
theorem Alike.oracle_legal (alike : Alike s) {oracle : OracleReply} (present : s.2 = some oracle) :
    Oracle.isLegalReplyState oracle = true := by
  obtain ⟨stored, state⟩ := s
  obtain ⟨hrep, hkept⟩ := alike
  cases hrep with
  | none => cases present
  | some rep =>
      cases present
      unfold Oracle.isLegalReplyState
      rw [rep.status, rep.publication]
      exact (hkept _ rfl).legal

/-- The moves of the history that takes some steps, newest first, and the state it ends in. -/
def historyOf (start : SideBySide) :
    List HistoryStep → List (Move SideBySide HistoryStep) × SideBySide
  | [] => ([], start)
  | step :: earlier =>
      let (moves, s) := historyOf start earlier
      (⟨s, step, afterStep s step⟩ :: moves, afterStep s step)

/-- Any steps can be taken from two that are alike. -/
theorem historyOf_run {start : SideBySide} (alike : Alike start) (steps : List HistoryStep) :
    Run sideBySide (historyOf start steps).1 (historyOf start steps).2 := by
  induction steps with
  | nil => exact .start alike
  | cons step earlier ih => exact .next ih rfl

/-- Production refines the hand-written workflow over whole histories. Production never leaves the
legal states. As long as every text is one a manager can save, production accepts a step exactly
when the workflow does unless it is an event asked from a start the two give it differently, and
until the first such step the two represent the same reply in a legal state. -/
theorem production_refines_oracle (r : Run sideBySide h s)
    (typed : ∀ m ∈ h, m.event.typesReplyText = true) :
    LegalState s.1 ∧
      ((∀ m ∈ h, m.event.startsDifferFrom m.pre.1 = false) →
        Option.Rel Represents s.1 s.2 ∧
          ∀ oracle, s.2 = some oracle → Oracle.isLegalReplyState oracle = true) ∧
      ∀ later m earlier, h = later ++ m :: earlier →
        (∀ n ∈ earlier, n.event.startsDifferFrom n.pre.1 = false) →
        ((productionStep m.pre.1 m.event).isSome = (oracleStep m.pre.1 m.pre.2 m.event).isSome ↔
          m.event.startsDifferFrom m.pre.1 = false) := by
  refine ⟨history_legal r, fun same ↦ ?_, ?_⟩
  · have alike := history_alike r typed same
    exact ⟨alike.represents, fun oracle present ↦ alike.oracle_legal present⟩
  · rintro later m earlier rfl same
    have alike := history_alike r.of_append.1
      (fun n hn ↦ typed n (by simp [hn])) same
    constructor
    · intro haccept
      by_contra hdiffer
      rw [Bool.not_eq_false] at hdiffer
      have hstep := step_differs alike m.event hdiffer
      rw [haccept] at hstep
      exact (Bool.eq_not_self _).1 hstep
    · intro hsame
      exact (alike_afterStep alike
        (step_agrees alike m.event (typed m (by simp)) hsame)).1

/-- What the transactions of a sample history read: a current binding, nothing proved. -/
def sampleCircumstances : Circumstances :=
  { provablyNeverSent := false
    bindingIsCurrent := true
    inputsAreCurrent := true
    textClaimedBefore := false
    newId := 1
    operationId := 2
    now := 0 }

/-- No reply on either side. -/
theorem alike_none : Alike (none, none) := ⟨.none, by rintro _ ⟨⟩⟩

/-- A reply written, submitted, approved, claimed and accepted by Google; newest step first. -/
def sampleSteps : List HistoryStep :=
  [.event .providerAccepted sampleCircumstances, .event .claim sampleCircumstances,
    .command (.approve ⟨1, 2⟩) sampleCircumstances, .command .submit sampleCircumstances,
    .command (.draft [0x54, 0x79]) sampleCircumstances]

/-- The sample history is one of those: its steps type one text, and no start of theirs differs. -/
theorem production_refines_oracle_accepted :
    (historyOf (none, none) sampleSteps).2.2.map (·.publication) =
        some (some .pendingObservation) ∧
      LegalState (historyOf (none, none) sampleSteps).2.1 ∧
      Option.Rel Represents (historyOf (none, none) sampleSteps).2.1
        (historyOf (none, none) sampleSteps).2.2 := by
  have hrefines := production_refines_oracle (historyOf_run alike_none sampleSteps) (by decide)
  exact ⟨by decide, hrefines.1, (hrefines.2.1 (by decide)).1⟩

/-- A cancellation after Google accepted the write is production's and not the workflow's. -/
theorem cancel_accepted_only_in_production :
    ¬ ∀ (h : List (Move SideBySide HistoryStep)) (s : SideBySide) (step : HistoryStep),
      Run sideBySide h s → step.typesReplyText = true →
        (productionStep s.1 step).isSome = (oracleStep s.1 s.2 step).isSome := by
  intro accepts
  have haccept := accepts _ _ (.event .cancel sampleCircumstances)
    (historyOf_run alike_none sampleSteps) rfl
  revert haccept
  decide

end ReputationKey.Review
