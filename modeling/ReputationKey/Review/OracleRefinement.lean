import ReputationKey.Review.ReplyMoves

/-!
# Production refines the hand-written workflow

A stored reply represents a reply of the workflow. Every command is accepted by both or by neither,
and leaves states that represent each other; so is every publication event, but for the starts the
shared table gives an event beyond the workflow's own. A history that asks for none of those walks
both the same way, and no history leaves the legal states.
-/

namespace ReputationKey.Review

open Oracle (OracleReply OracleState OracleAuthorship ManagerCommand ManagerVerdict CommandEvidence
  PublicationEvent ReplyOnScreen AiDraftPurgeScope managerVerdict afterPublicationEvent
  legalReplyStates)

variable {reply : ReplyInPublication} {oracle : OracleReply} {circumstances : Circumstances}

/-! ## Representation -/

/-- Whose a stored text is. -/
def authorshipOf (aiGenerated : Bool) : OracleAuthorship :=
  if aiGenerated then .aiAssisted else .human

/-- A stored reply is this reply of the workflow. The failure class counts where it decides what
may happen next. -/
structure Represents (reply : ReplyInPublication) (oracle : OracleReply) : Prop where
  status : oracle.status = reply.row.status
  publication : oracle.publication = reply.row.publicationState
  failure : reply.row.publicationState = some .terminal ∨
    reply.row.publicationState = some .ambiguous →
    oracle.lastFailure = reply.row.publicationLastErrorClass
  cycle : oracle.cycle = reply.row.publicationCycle
  attempts : oracle.attempts = reply.row.publicationAttempts
  text : oracle.text = reply.row.text
  authorship : oracle.authorship = authorshipOf reply.row.aiGenerated

/-- Whether a stored reply is in a state the workflow lists. -/
def Reply.isLegal (row : Reply) : Bool :=
  legalReplyStates.any fun state ↦ state.1 == row.status && state.2 == row.publicationState

/-- Whether the outcome of the attempt is what the publication state says. -/
def attemptMatches (row : Reply) (outcome : Option AttemptOutcome) : Bool :=
  match row.publicationState with
  | some .sending => outcome == some .sending
  | some .pendingObservation => outcome == some .providerOutcomePending
  | some .ambiguous => outcome == some .ambiguous
  | some .terminal =>
      if row.publicationLastErrorClass = some .ambiguous then outcome == some .ambiguous
      else !outcome.any isOpenAttemptOutcome
  | _ => !outcome.any isOpenAttemptOutcome

/-- Whether Google may or may not have a stored reply. -/
def Reply.awaitsAnswer (row : Reply) : Bool :=
  isUncertainPublicationState row.publicationState || endedWithoutAnAnswer row

/-- What the stores keep of every reply: a legal state, the cycle and the attempt that state speaks
of, and text Google can be sent, unless it was withdrawn. -/
structure ReplyInPublication.Kept (reply : ReplyInPublication) : Prop where
  legal : reply.row.isLegal
  attempt : attemptMatches reply.row reply.outcome
  cycled : reply.row.publicationState ≠ none → 1 ≤ reply.row.publicationCycle
  counted : reply.row.awaitsAnswer → 1 ≤ reply.row.publicationAttempts
  text : replyCommentProblem reply.row.text = none ∨
    (reply.row.text = [] ∧ reply.row.status = .draft)

/-- The statuses of a legal reply are told by its publication state. -/
theorem Reply.isLegal_iff (row : Reply) :
    row.isLegal ↔
      ((row.publicationState = none ∨ row.publicationState = some .cancelled) ∧
        (row.status = .draft ∨ row.status = .pendingApproval ∨ row.status = .rejected)) ∨
      ((row.publicationState = some .authorized ∨ row.publicationState = some .sending ∨
        row.publicationState = some .pendingObservation) ∧ row.status = .approved) ∨
      (row.publicationState = some .published ∧ row.status = .published) ∨
      ((row.publicationState = some .terminal ∨ row.publicationState = some .ambiguous) ∧
        row.status = .publishFailed) := by
  unfold Reply.isLegal
  cases row.status <;> rcases row.publicationState with _ | state <;> try cases state
  all_goals decide

/-- Both refuse, or both accept and leave states that represent each other, the stored one kept. -/
def Agrees (production : Option (Option ReplyInPublication)) (workflow : Option OracleState) :
    Prop :=
  match production, workflow with
  | none, none => True
  | some stored, some next =>
      Option.Rel Represents stored next ∧ ∀ reply, stored = some reply → reply.Kept
  | _, _ => False

/-- Two guarded results agree when the guards do. -/
theorem agrees_ite {p q : Prop} [Decidable p] [Decidable q]
    {production : Option (Option ReplyInPublication)} {workflow : Option OracleState}
    (guards : p ↔ q) (agrees : p → q → Agrees production workflow) :
    Agrees (if p then production else none) (if q then workflow else none) := by
  by_cases h : p
  · rw [if_pos h, if_pos (guards.1 h)]
    exact agrees h (guards.1 h)
  · rw [if_neg h, if_neg fun hq ↦ h (guards.2 hq)]
    trivial

/-- Two accepted results that represent each other agree. -/
theorem agrees_some {stored : ReplyInPublication} {next : OracleReply}
    (represents : Represents stored next) (kept : stored.Kept) :
    Agrees (some (some stored)) (some (some next)) :=
  ⟨.some represents, by rintro reply ⟨rfl⟩; exact kept⟩

/-- A guarded verdict as an acceptance. -/
theorem toOption_ite {c : Prop} [Decidable c] (accepted refused : ManagerVerdict) :
    (if c then accepted else refused).toOption =
      if c then accepted.toOption else refused.toOption := by
  split <;> rfl

/-- A refused verdict accepts nothing. -/
theorem toOption_error (refusal : Oracle.Refusal) :
    Except.toOption (.error refusal : ManagerVerdict) = none := rfl

/-- An accepted verdict is its next state. -/
theorem toOption_ok (next : OracleState) :
    Except.toOption (.ok next : ManagerVerdict) = some next := rfl

/-! ## Commands -/

/-- What a guarded command leaves, as one guard. -/
theorem commandRow_eq (row : Reply) (command : ReplyCommand) (bindingIsCurrent : Bool)
    (updates : Reply → Reply) :
    commandRow row command bindingIsCurrent updates =
      if replyCommandMayStart command row ∧
          (aiTextRuleOf command = .needsCurrentBinding → aiTextMayAdvance row bindingIsCurrent) then
        some (applyReplyTrigger row (replySetClause command updates row))
      else none := by
  unfold commandRow
  by_cases hstart : replyCommandMayStart command row
  · by_cases hrule : aiTextRuleOf command = .needsCurrentBinding
    · by_cases hadvance : aiTextMayAdvance row bindingIsCurrent <;> simp [hstart, hrule, hadvance]
    · simp [hstart, hrule]
  · simp [hstart]

/-- Outside publication means the same on both sides. -/
theorem Represents.outsidePublication (rep : Represents reply oracle) :
    Oracle.outsidePublication oracle = true ↔
      reply.row.publicationState = none ∨ reply.row.publicationState = some .cancelled := by
  simp [Oracle.outsidePublication, rep.publication]

/-- Stale AI text means the same on both sides. -/
theorem Represents.staleAiText (rep : Represents reply oracle) (evidence : CommandEvidence) :
    Oracle.staleAiText oracle evidence = false ↔
      aiTextMayAdvance reply.row evidence.aiBindingCurrent = true := by
  cases hai : reply.row.aiGenerated <;>
    simp [Oracle.staleAiText, aiTextMayAdvance, rep.authorship, authorshipOf, hai]

/-- A reply outside publication has no open attempt, and keeps none when only its status, text or
authorship change. -/
theorem ReplyInPublication.Kept.rewritten {row' : Reply} (kept : reply.Kept)
    (outside : reply.row.publicationState = none ∨ reply.row.publicationState = some .cancelled)
    (state : row'.publicationState = reply.row.publicationState)
    (cycle : row'.publicationCycle = reply.row.publicationCycle)
    (status : row'.status = .draft ∨ row'.status = .pendingApproval ∨ row'.status = .rejected)
    (text : replyCommentProblem row'.text = none ∨ (row'.text = [] ∧ row'.status = .draft)) :
    ReplyInPublication.Kept ⟨row', reply.outcome⟩ := by
  have hattempt := kept.attempt
  constructor
  · exact (Reply.isLegal_iff row').2 (Or.inl ⟨by rw [state]; exact outside, status⟩)
  · unfold attemptMatches at hattempt ⊢
    rcases outside with h | h <;> rw [h] at hattempt state <;> simp_all
  · rw [state, cycle]
    exact kept.cycled
  · intro hawaits
    rcases outside with h | h <;> rw [h] at state <;>
      simp [Reply.awaitsAnswer, isUncertainPublicationState, endedWithoutAnAnswer, state] at hawaits
  · exact text

/-- The starts of the commands that work outside publication. -/
theorem mayStart_saveDraft_iff (row : Reply) :
    replyCommandMayStart .saveDraft row = true ↔
      (row.status = .draft ∨ row.status = .rejected) ∧
        (row.publicationState = none ∨ row.publicationState = some .cancelled) := by
  simp [replyCommandMayStart, isAtCommandStart, replyCommandStarts, noOpenPublication]

theorem mayStart_submit_iff (row : Reply) :
    replyCommandMayStart .submit row = true ↔
      row.status = .draft ∧
        (row.publicationState = none ∨ row.publicationState = some .cancelled) := by
  simp [replyCommandMayStart, isAtCommandStart, replyCommandStarts, noOpenPublication]

theorem mayStart_approve_iff (row : Reply) :
    replyCommandMayStart .approve row = true ↔
      row.status = .pendingApproval ∧
        (row.publicationState = none ∨ row.publicationState = some .cancelled) := by
  simp [replyCommandMayStart, isAtCommandStart, replyCommandStarts, noOpenPublication]

theorem mayStart_reject_iff (row : Reply) :
    replyCommandMayStart .reject row = true ↔
      row.status = .pendingApproval ∧
        (row.publicationState = none ∨ row.publicationState = some .cancelled) := by
  simp [replyCommandMayStart, isAtCommandStart, replyCommandStarts, noOpenPublication]

/-- The starts of a retry, an edit and a deletion. -/
theorem mayStart_retry_iff (row : Reply) :
    replyCommandMayStart .retryPublication row = true ↔
      row.status = .publishFailed ∧ row.publicationState = some .terminal ∧
        row.publicationLastErrorClass ≠ some .ambiguous := by
  refine ⟨replyCommandMayStart_retry, ?_⟩
  rintro ⟨hstatus, hstate, hclass⟩
  simp [replyCommandMayStart, isAtCommandStart, replyCommandStarts, endedWithoutAnAnswer, hstatus,
    hstate, hclass]

theorem mayStart_edit_iff (row : Reply) :
    replyCommandMayStart .editPublished row = true ↔
      row.status = .published ∧
        (row.publicationState = some .published ∨ row.publicationState = none) := by
  simp [replyCommandMayStart, isAtCommandStart, replyCommandStarts]

theorem mayStart_delete_iff (row : Reply) :
    replyCommandMayStart .delete row = true ↔
      (row.status = .draft ∨ row.status = .rejected) ∧ row.publicationState = none ∧
        row.publicationCycle = 0 := by
  simp only [replyCommandMayStart, isAtCommandStart, replyCommandStarts, hasPublicationRecord]
  cases row.publicationState <;> simp

/-- A draft save rewrites the same replies on both sides. -/
theorem draft_agrees {text : Text} {evidence : CommandEvidence} (rep : Represents reply oracle)
    (kept : reply.Kept) (typed : replyCommentProblem text = none) :
    Agrees (productionCommand (some reply) (.draft text) circumstances)
      (managerVerdict (some oracle) (.draft text) evidence).toOption := by
  simp only [productionCommand, typed, ne_eq, not_true_eq_false, if_false, commandRow_eq,
    managerVerdict, Oracle.draftVerdict, mayStart_saveDraft_iff, rep.status,
    rep.outsidePublication, toOption_ite, toOption_error, toOption_ok, apply_ite (Option.map _),
    Option.map_some, Option.map_none]
  refine agrees_ite (by simp [aiTextRuleOf]) fun _ hstart ↦ ?_
  refine agrees_some ?_ (kept.rewritten hstart.2 rfl rfl (Or.inl rfl) (Or.inl typed))
  constructor <;>
    simp [applyReplyTrigger, replySetClause, aiTextRuleOf, rep.publication, rep.cycle,
      rep.attempts, authorshipOf]
  rcases hstart.2 with h | h <;> simp [h]

/-- An adopted suggestion replaces the same replies on both sides. -/
theorem adopt_agrees {text : Text} {evidence : CommandEvidence} (rep : Represents reply oracle)
    (kept : reply.Kept) (typed : replyCommentProblem text = none) :
    Agrees (productionCommand (some reply) (.adoptAi text) circumstances)
      (managerVerdict (some oracle) (.adoptAi text) evidence).toOption := by
  simp only [productionCommand, typed, ne_eq, not_true_eq_false, if_false, managerVerdict,
    Oracle.adoptVerdict, rep.status, toOption_ite, toOption_error, toOption_ok]
  refine agrees_ite Iff.rfl fun hstart _ ↦ ?_
  have houtside : reply.row.publicationState = none ∨
      reply.row.publicationState = some .cancelled := by
    rcases (Reply.isLegal_iff _).1 kept.legal with ⟨h, -⟩ | ⟨-, h⟩ | ⟨-, h⟩ | ⟨-, h⟩
    · exact h
    all_goals rw [h] at hstart; simp at hstart
  refine agrees_some ?_ (kept.rewritten houtside rfl rfl (Or.inl rfl) (Or.inl typed))
  constructor <;>
    simp [applyReplyTrigger, rep.publication, rep.cycle, rep.attempts, authorshipOf]
  rcases houtside with h | h <;> simp [h]

/-- A submission hands the same drafts over on both sides. -/
theorem submit_agrees {evidence : CommandEvidence} (rep : Represents reply oracle)
    (kept : reply.Kept) (binding : evidence.aiBindingCurrent = circumstances.bindingIsCurrent) :
    Agrees (productionCommand (some reply) .submit circumstances)
      (managerVerdict (some oracle) .submit evidence).toOption := by
  simp only [productionCommand, managerVerdict, Oracle.submitVerdict, commandRow_eq,
    mayStart_submit_iff, toOption_ite, toOption_error, toOption_ok, rep.status, rep.text]
  -- Blank text is the only text a kept reply holds that Google cannot be sent.
  by_cases htext : reply.row.text = []
  · rw [htext]
    simp [replyCommentProblem_nil, Agrees]
  · have hsendable : replyCommentProblem reply.row.text = none :=
      kept.text.resolve_right fun h ↦ htext h.1
    simp only [hsendable, htext, ne_eq, not_true_eq_false, if_false, apply_ite (Option.map _),
      Option.map_some, Option.map_none]
    by_cases hstart : reply.row.status = .draft ∧
        (reply.row.publicationState = none ∨ reply.row.publicationState = some .cancelled)
    · rw [if_neg (show ¬(¬reply.row.status = ReplyStatus.draft ∨
        (!Oracle.outsidePublication oracle) = true) by
          simp [hstart.1, rep.outsidePublication.2 hstart.2])]
      have hstale := rep.staleAiText evidence
      rw [binding] at hstale
      by_cases hadvance : aiTextMayAdvance reply.row circumstances.bindingIsCurrent
      · rw [if_pos ⟨hstart, fun _ ↦ hadvance⟩,
          if_neg (show ¬Oracle.staleAiText oracle evidence = true by
            simp [hstale.2 hadvance])]
        refine agrees_some ?_ (kept.rewritten hstart.2 rfl rfl (Or.inr (Or.inl rfl))
          (Or.inl hsendable))
        constructor <;>
          simp [applyReplyTrigger, replySetClause, aiTextRuleOf, rep.publication, rep.cycle,
            rep.attempts, rep.authorship]
        rcases hstart.2 with h | h <;> simp [h]
      · rw [if_neg fun h ↦ hadvance (h.2 rfl), if_pos]
        · trivial
        · by_contra hfresh
          exact hadvance (hstale.1 (by simpa using hfresh))
    · rw [if_neg fun h ↦ hstart h.1, if_pos]
      · trivial
      · by_contra hstarts
        rw [not_or, not_not] at hstarts
        exact hstart ⟨hstarts.1, rep.outsidePublication.1 (by simpa using hstarts.2)⟩

/-- A rejection sends the same replies back on both sides. -/
theorem reject_agrees {evidence : CommandEvidence} (rep : Represents reply oracle)
    (kept : reply.Kept) :
    Agrees (productionCommand (some reply) .reject circumstances)
      (managerVerdict (some oracle) .reject evidence).toOption := by
  simp only [productionCommand, managerVerdict, Oracle.rejectVerdict, commandRow_eq,
    mayStart_reject_iff, toOption_ite, toOption_error, toOption_ok, rep.status,
    rep.outsidePublication, apply_ite (Option.map _), Option.map_some, Option.map_none]
  refine agrees_ite (by simp [aiTextRuleOf]) fun _ hstart ↦ ?_
  have hsendable : replyCommentProblem reply.row.text = none := by
    refine kept.text.resolve_right fun h ↦ ?_
    rw [h.2] at hstart
    cases hstart.1
  refine agrees_some ?_ (kept.rewritten hstart.2 rfl rfl (Or.inr (Or.inr rfl))
    (Or.inl hsendable))
  constructor <;>
    simp [applyReplyTrigger, replySetClause, aiTextRuleOf, rep.publication, rep.cycle,
      rep.attempts, rep.text, rep.authorship]
  rcases hstart.2 with h | h <;> simp [h]

/-- A deletion removes the same replies on both sides. -/
theorem delete_agrees {evidence : CommandEvidence} (rep : Represents reply oracle) :
    Agrees (productionCommand (some reply) .delete circumstances)
      (managerVerdict (some oracle) .delete evidence).toOption := by
  simp only [productionCommand, managerVerdict, Oracle.deleteVerdict, mayStart_delete_iff,
    toOption_ite, toOption_error, toOption_ok, rep.status, rep.publication, rep.cycle]
  exact agrees_ite Iff.rfl fun _ _ ↦ ⟨.none, by rintro _ ⟨⟩⟩

/-- An authorized reply is kept: approved, in a new cycle with no attempt, with text to send. -/
theorem kept_authorized {row : Reply} (status : row.status = .approved)
    (state : row.publicationState = some .authorized)
    (cycle : 1 ≤ row.publicationCycle) (text : replyCommentProblem row.text = none) :
    ReplyInPublication.Kept ⟨row, none⟩ := by
  constructor
  · exact (Reply.isLegal_iff row).2 (Or.inr (Or.inl ⟨Or.inl state, status⟩))
  · simp [attemptMatches, state]
  · exact fun _ ↦ cycle
  · intro hawaits
    simp [Reply.awaitsAnswer, isUncertainPublicationState, endedWithoutAnAnswer, state] at hawaits
  · exact Or.inl text

/-- What an authorizing write leaves is what the workflow authorizes. -/
theorem authorized_agrees {row : Reply} {command : ReplyCommand} {authorship : OracleAuthorship}
    {text : Text} {updates : Reply → Reply} {occurredAt : Int}
    (cycle : oracle.cycle = row.publicationCycle)
    (approved : (updates row).status = .approved) (written : (updates row).text = text)
    (sendable : replyCommentProblem text = none)
    (whose : authorship = authorshipOf
      (replySetClause command (authorizedSet (row.publicationCycle + 1) occurredAt updates)
        row).aiGenerated) :
    Agrees (some (some
      ⟨applyReplyTrigger row (replySetClause command
        (authorizedSet (row.publicationCycle + 1) occurredAt updates) row), none⟩))
      (some (some (Oracle.authorized oracle authorship text))) := by
  have hfields : ∀ saved : Reply, saved = replySetClause command
      (authorizedSet (row.publicationCycle + 1) occurredAt updates) row →
      saved.status = .approved ∧ saved.publicationState = some .authorized ∧ saved.text = text ∧
        saved.publicationCycle = row.publicationCycle + 1 ∧ saved.publicationAttempts = 0 := by
    rintro saved rfl
    unfold replySetClause authorizedSet
    split <;> exact ⟨approved, rfl, written, rfl, rfl⟩
  obtain ⟨hstatus, hstate, htext, hcycle, hattempts⟩ := hfields _ rfl
  refine agrees_some ?_ (kept_authorized hstatus hstate (by
    change 1 ≤ (replySetClause command _ row).publicationCycle
    omega) (htext ▸ sendable))
  constructor
  · exact hstatus.symm
  · exact hstate.symm
  · intro h
    simp [applyReplyTrigger, hstate] at h
  · exact (congrArg (· + 1) cycle).trans hcycle.symm
  · exact hattempts.symm
  · exact htext.symm
  · exact whose

/-- Nothing is authorized from a reply the command may not start from. -/
theorem authorizeRow_eq_none {row : Reply} {command : ReplyCommand}
    (refused : ¬replyCommandMayStart command row) :
    authorizeRow row command circumstances = none := by
  unfold authorizeRow
  split
  · rfl
  · rw [commandRow_eq, if_neg fun h ↦ refused h.1]
    rfl

/-- A confirmation authorizes the same replies on both sides. -/
theorem approve_agrees {onScreen : ReplyOnScreen} {evidence : CommandEvidence}
    (rep : Represents reply oracle) (kept : reply.Kept)
    (binding : evidence.aiBindingCurrent = circumstances.bindingIsCurrent)
    (stored : evidence.stored = some ⟨reply.row.id, reply.row.stateRevision⟩) :
    Agrees (productionCommand (some reply) (.approve onScreen) circumstances)
      (managerVerdict (some oracle) (.approve onScreen) evidence).toOption := by
  simp only [productionCommand, managerVerdict, Oracle.approveVerdict, toOption_ite,
    toOption_error, toOption_ok, rep.status]
  by_cases hstart : reply.row.status = .pendingApproval ∧
      (reply.row.publicationState = none ∨ reply.row.publicationState = some .cancelled)
  · have hsendable : replyCommentProblem reply.row.text = none := by
      refine kept.text.resolve_right fun h ↦ ?_
      rw [h.2] at hstart
      cases hstart.1
    have hnext : nextPublicationState reply.row.publicationState .authorize ≠ none := by
      rcases hstart.2 with h | h <;> rw [h] <;> decide
    rw [if_neg (show ¬(reply.row.status ≠ .pendingApproval ∨
      (!Oracle.outsidePublication oracle) = true) by
        simp [hstart.1, rep.outsidePublication.2 hstart.2])]
    by_cases hscreen : onScreen.id = reply.row.id ∧ onScreen.revision = reply.row.stateRevision
    · rw [if_neg (by simp [hscreen.1, hscreen.2]),
        if_neg (by simp [Oracle.namesTheStoredReply, stored, hscreen.1, hscreen.2])]
      have hstale := rep.staleAiText evidence
      rw [binding] at hstale
      simp only [authorizeRow, hnext, hsendable, ne_eq, not_true_eq_false, or_self, if_false,
        commandRow_eq, mayStart_approve_iff]
      by_cases hadvance : aiTextMayAdvance reply.row circumstances.bindingIsCurrent
      · rw [if_pos ⟨hstart, fun _ ↦ hadvance⟩,
          if_neg (show ¬Oracle.staleAiText oracle evidence = true by
            simp [hstale.2 hadvance])]
        exact authorized_agrees rep.cycle rfl rep.text.symm (rep.text ▸ hsendable) rep.authorship
      · rw [if_neg fun h ↦ hadvance (h.2 rfl), if_pos]
        · trivial
        · by_contra hfresh
          exact hadvance (hstale.1 (by simpa using hfresh))
    · rw [if_pos (by tauto), if_pos]
      · trivial
      · simp only [Oracle.namesTheStoredReply, stored, Option.any_some, Bool.not_eq_true',
          Bool.and_eq_false_iff, beq_eq_false_iff_ne, ne_eq]
        exact not_and_or.1 hscreen
  · rw [if_pos (show reply.row.status ≠ .pendingApproval ∨
      (!Oracle.outsidePublication oracle) = true by
        by_contra hstarts
        rw [not_or, not_ne_iff] at hstarts
        exact hstart ⟨hstarts.1, rep.outsidePublication.1 (by simpa using hstarts.2)⟩)]
    rw [authorizeRow_eq_none fun h ↦ hstart ((mayStart_approve_iff _).1 h)]
    split <;> trivial

/-- Text of a reply that is no draft is text Google can be sent. -/
theorem ReplyInPublication.Kept.sendable (kept : reply.Kept) (status : reply.row.status ≠ .draft) :
    replyCommentProblem reply.row.text = none :=
  kept.text.resolve_right fun h ↦ status h.2

/-- An unknown outcome is the same on both sides. -/
theorem Represents.outcomeUnknown (rep : Represents reply oracle) (kept : reply.Kept) :
    Oracle.outcomeUnknown oracle = true ↔ requiresPositiveReconciliation reply.row = true := by
  have hfailure := rep.failure
  unfold Oracle.outcomeUnknown requiresPositiveReconciliation endedWithoutAnAnswer
  rw [rep.status, rep.publication]
  rcases (Reply.isLegal_iff _).1 kept.legal with ⟨h | h, h' | h' | h'⟩ | ⟨h | h | h, h'⟩ |
    ⟨h, h'⟩ | ⟨h | h, h'⟩ <;> simp_all

/-- A reply whose outcome nobody knows points at an open attempt, and no other does. -/
theorem ReplyInPublication.Kept.hasOpenAttempt_iff (kept : reply.Kept) :
    reply.hasOpenAttempt = true ↔ reply.row.awaitsAnswer = true := by
  have hattempt := kept.attempt
  unfold attemptMatches at hattempt
  unfold ReplyInPublication.hasOpenAttempt Reply.awaitsAnswer isUncertainPublicationState
    endedWithoutAnAnswer
  split at hattempt
  · next h => simp_all [isOpenAttemptOutcome]
  · next h => simp_all [isOpenAttemptOutcome]
  · next h => simp_all [isOpenAttemptOutcome]
  · next h =>
      split at hattempt
      · next hclass => simp_all [isOpenAttemptOutcome]
      · next hclass => simp_all
  · next hsending hpending hambiguous hterminal => simp_all

/-- An attempt that is sending, or whose outcome nobody learned, can be settled as never sent. -/
theorem settleRow_of_unknown (kept : reply.Kept)
    (unknown : reply.row.publicationState = some .sending ∨
      requiresPositiveReconciliation reply.row) (provablyNeverSent : Bool) :
    settleRow reply provablyNeverSent =
      if provablyNeverSent then
        some
          ⟨applyReplyTrigger reply.row
            { reply.row with
              status := .publishFailed
              publicationState := some .terminal
              publicationLastErrorClass := some .retryable
              reconcileDueAt := none }, some .retryableFailure⟩
      else none := by
  have hunknown : reply.row.publicationState = some .sending ∨
      reply.row.publicationState = some .ambiguous ∨
      (reply.row.publicationState = some .terminal ∧
        reply.row.publicationLastErrorClass = some .ambiguous) := by
    simpa [requiresPositiveReconciliation, endedWithoutAnAnswer] using unknown
  have hawaits : reply.row.awaitsAnswer := by
    rcases hunknown with h | h | ⟨h, h'⟩ <;>
      simp [Reply.awaitsAnswer, isUncertainPublicationState, endedWithoutAnAnswer, *]
  have hattempts := kept.counted hawaits
  have hcycle : 1 ≤ reply.row.publicationCycle :=
    kept.cycled (by rcases hunknown with h | h | ⟨h, -⟩ <;> simp [h])
  have houtcome : reply.outcome.any uncertainAttemptOutcomes.contains := by
    have hattempt := kept.attempt
    unfold attemptMatches at hattempt
    rcases hunknown with h | h | ⟨h, h'⟩ <;> simp_all [uncertainAttemptOutcomes]
  have hsettleable : (uncertainSnapshotFor reply.row neverDispatchedSettleable).isNone = false := by
    rcases hunknown with h | h | ⟨h, h'⟩ <;>
      rcases (Reply.isLegal_iff _).1 kept.legal with ⟨hl, -⟩ | ⟨hl, hl'⟩ | ⟨hl, -⟩ | ⟨hl, hl'⟩ <;>
      simp_all [uncertainSnapshotFor, neverDispatchedSettleable, UncertainSendSnapshot.describes]
  unfold settleRow
  cases provablyNeverSent
  · simp
  · rw [if_neg]
    · rfl
    · rintro (h | h | h | h | h)
      · rw [hsettleable] at h
        cases h
      · omega
      · omega
      · rw [houtcome] at h
        cases h
      · cases h

/-- Trying again authorizes the same replies on both sides. -/
theorem retry_agrees {evidence : CommandEvidence} (rep : Represents reply oracle)
    (kept : reply.Kept) (proof : evidence.provablyNeverSent = circumstances.provablyNeverSent) :
    Agrees (productionCommand (some reply) .retry circumstances)
      (managerVerdict (some oracle) .retry evidence).toOption := by
  simp only [productionCommand, retryRow, managerVerdict, Oracle.retryVerdict, rep.status,
    rep.publication]
  by_cases hpublished : reply.row.status = .published ∧
      reply.row.publicationState = some .published
  · rw [if_pos hpublished, if_pos hpublished]
    exact agrees_some rep kept
  · rw [if_neg hpublished, if_neg hpublished]
    by_cases hfailed : reply.row.status = .publishFailed
    · rw [if_neg (not_not.2 hfailed)]
      have hsendable := kept.sendable (by simp [hfailed])
      by_cases hunknown : requiresPositiveReconciliation reply.row
      · rw [if_pos hunknown, if_pos ((rep.outcomeUnknown kept).2 hunknown),
          settleRow_of_unknown kept (Or.inr hunknown), proof]
        cases circumstances.provablyNeverSent with
        | false => trivial
        | true =>
            simp only [if_true, Option.bind_some, authorizeRow, commandRow_eq]
            rw [if_neg (by
              simp only [applyReplyTrigger, hsendable, ne_eq, not_true_eq_false, or_false]
              decide)]
            rw [if_pos ⟨(mayStart_retry_iff _).2 ⟨rfl, rfl, by simp [applyReplyTrigger]⟩,
              fun h ↦ by cases h⟩]
            exact authorized_agrees rep.cycle rfl rep.text.symm (rep.text ▸ hsendable)
              rep.authorship
      · rw [if_neg hunknown, if_neg fun h ↦ hunknown ((rep.outcomeUnknown kept).1 h)]
        have hterminal : reply.row.publicationState = some .terminal ∧
            reply.row.publicationLastErrorClass ≠ some .ambiguous := by
          rcases (Reply.isLegal_iff _).1 kept.legal with ⟨-, h⟩ | ⟨-, h⟩ | ⟨-, h⟩ | ⟨h, -⟩
          · simp [hfailed] at h
          · simp [hfailed] at h
          · simp [hfailed] at h
          · simp only [requiresPositiveReconciliation, endedWithoutAnAnswer] at hunknown
            rcases h with h | h <;> simp_all
        simp only [authorizeRow, commandRow_eq]
        rw [if_pos hterminal.1, if_neg (by
          simp only [hterminal.1, hsendable, ne_eq, not_true_eq_false, or_false]
          decide), if_pos ⟨(mayStart_retry_iff _).2 ⟨hfailed, hterminal⟩, fun h ↦ by cases h⟩]
        exact authorized_agrees rep.cycle rfl rep.text.symm (rep.text ▸ hsendable)
          rep.authorship
    · rw [if_pos hfailed]
      have hknown : requiresPositiveReconciliation reply.row = false := by
        rw [← Bool.not_eq_true, ← rep.outcomeUnknown kept]
        simp [Oracle.outcomeUnknown, rep.status, hfailed]
      rw [hknown, if_neg Bool.false_ne_true,
        authorizeRow_eq_none fun h ↦ hfailed ((mayStart_retry_iff _).1 h).1]
      trivial

/-- An edit of a published reply authorizes the same replies on both sides. -/
theorem edit_agrees {text : Text} {evidence : CommandEvidence} (rep : Represents reply oracle)
    (kept : reply.Kept) (typed : isReplyText text) :
    Agrees (productionCommand (some reply) (.edit text) circumstances)
      (managerVerdict (some oracle) (.edit text) evidence).toOption := by
  obtain ⟨hsendable, htrimmed⟩ : replyCommentProblem text = none ∧ trim text = text := by
    simpa [isReplyText] using typed
  simp only [productionCommand, editRow, htrimmed, hsendable, ne_eq, not_true_eq_false, false_or,
    managerVerdict, Oracle.editVerdict, rep.status, rep.publication, rep.text]
  by_cases hstart : reply.row.status = .published ∧
      reply.row.publicationState = some .published
  · have hmay := (mayStart_edit_iff reply.row).2 ⟨hstart.1, Or.inl hstart.2⟩
    rw [if_neg (by simp [hmay]), if_neg (show ¬(¬reply.row.status = .published ∨
      ¬reply.row.publicationState = some .published) by simp [hstart.1, hstart.2])]
    by_cases hsame : text = reply.row.text
    · rw [if_pos hsame, if_pos hsame]
      exact agrees_some rep kept
    · rw [if_neg hsame, if_neg hsame, commandRow_eq, if_pos ⟨hmay, fun h ↦ by cases h⟩]
      exact authorized_agrees rep.cycle rfl rfl hsendable rfl
  · rw [if_pos (not_and_or.1 hstart), if_pos]
    · trivial
    · -- A published reply that is legal has its publication state.
      simp only [Bool.not_eq_true', ← Bool.not_eq_true, mayStart_edit_iff]
      rintro ⟨hstatus, hstate⟩
      rcases (Reply.isLegal_iff _).1 kept.legal with ⟨-, h⟩ | ⟨-, h⟩ | ⟨h, -⟩ | ⟨-, h⟩
      · simp [hstatus] at h
      · simp [hstatus] at h
      · exact hstart ⟨hstatus, h⟩
      · simp [hstatus] at h

end ReputationKey.Review
