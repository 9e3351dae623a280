import ReputationKey.Guest.Lifecycle

/-!
# What each guest-response command that commits did

One lemma for each commit and one for each use case: the rows a command read, the rows it found,
and the ledger it leaves.
-/

namespace ReputationKey.Guest

open ReputationKey.Base
open ReputationKey.Review (Text)

variable {read s s' : Ledger} {rows : ResponseRows} {moment : Moment}

/-! ## Reads and commits -/

/-- The response a session reads is the one of the rows. -/
theorem findForSession_eq_some {sessionId : Nat} {asOf : Int} {current : GuestResponse}
    (h : findForSession read sessionId asOf = some current) :
    ∃ rows binding, read.rows = some rows ∧ current = guestResponseFromRow rows binding asOf := by
  obtain ⟨rows, hrows, hbinding⟩ := Option.bind_eq_some_iff.1 h
  obtain ⟨binding, -, rfl⟩ := Option.map_eq_some_iff.1 hbinding
  exact ⟨rows, some binding, hrows, rfl⟩

/-- The response found by its identifier is the one of the rows. -/
theorem findById_eq_some {responseId : Nat} {asOf : Int} {current : GuestResponse}
    (h : findById read responseId asOf = some current) :
    ∃ rows binding, read.rows = some rows ∧ current = guestResponseFromRow rows binding asOf := by
  obtain ⟨rows, hrows, rfl⟩ := Option.map_eq_some_iff.1 h
  exact ⟨rows, none, (Option.filter_eq_some_iff.1 hrows).1, rfl⟩

/-- A command that committed. -/
theorem Commit.orThrow_eq_ok {code : String} {commit : Commit}
    (h : commit.orThrow code = .ok (some s')) : commit = .applied s' := by
  cases commit with
  | applied s => cases h; rfl
  | lost => cases h
  | refused => cases h

/-- Committed rows satisfy the checks and add the facts. -/
theorem commitRows_eq_applied {facts : List GuestMutationFact}
    (h : commitRows s rows facts = .applied s') :
    satisfiesChecks rows.columns = true ∧ s' = ⟨some rows, facts.reverse ++ s.facts⟩ := by
  unfold commitRows at h
  split at h
  · next hchecks =>
      cases h
      exact ⟨hchecks, rfl⟩
  · cases h

/-- A submission commits on no rows, and its rows hold what was submitted. -/
theorem commitSubmitted_eq_applied {response : GuestResponse} {facts : List GuestMutationFact}
    (h : commitSubmitted s response facts = .applied s') :
    ∃ submittedAt binding, response.submittedAt = some submittedAt ∧ s.rows = none ∧
      satisfiesChecks
        { response with
          sessionId := none
          sessionExpiresAt := none
          text := none
          ratingSourceEventId := ratingLineage response facts
          feedbackSourceEventId := feedbackLineage response facts } = true ∧
      s' =
        ⟨some
          { columns :=
              { response with
                sessionId := none
                sessionExpiresAt := none
                text := none
                ratingSourceEventId := ratingLineage response facts
                feedbackSourceEventId := feedbackLineage response facts }
            binding := binding
            feedback := response.text.map fun text ↦
              ⟨text, response.feedbackSubmittedAt.getD submittedAt,
                response.feedbackSubmittedAt.getD submittedAt + privateFeedbackRetentionMs⟩ },
          facts.reverse ++ s.facts⟩ := by
  unfold commitSubmitted at h
  split at h
  · next sessionId expiresAt submittedAt _ _ hsubmitted =>
      split at h
      · cases h
      · split at h
        · cases h
        · split at h
          · cases h
          · split at h
            · cases h
            · next hrows =>
                obtain ⟨hchecks, rfl⟩ := commitRows_eq_applied h
                exact ⟨submittedAt, _, hsubmitted, hrows, hchecks, rfl⟩
  · cases h

/-- A correction commits on rows whose status, count and sources are those it read. -/
theorem commitCorrected_eq_applied {previous response : GuestResponse}
    {facts : List GuestMutationFact}
    (h : commitCorrected s previous response facts = .applied s') :
    ∃ rows, s.rows = some rows ∧ rows.columns.status = previous.status ∧
      rows.columns.correctionCount = previous.correctionCount ∧
      rows.columns.ratingSourceEventId = previous.ratingSourceEventId ∧
      rows.columns.feedbackSourceEventId = previous.feedbackSourceEventId ∧
      rows.columns.deletedAt = none ∧
      s' =
        ⟨some
          { rows with
            columns :=
              { rows.columns with
                status := response.status
                rating := response.rating
                category := response.category
                responseConsent := response.responseConsent
                textConsent := response.textConsent
                mediaConsent := response.mediaConsent
                correctionCount := response.correctionCount
                correctedAt := response.correctedAt
                ratingSourceEventId := ratingLineage response facts
                feedbackSourceEventId := feedbackLineage response facts } },
          facts.reverse ++ s.facts⟩ := by
  unfold commitCorrected at h
  split at h
  · cases h
  · split at h
    · cases h
    · next rows hrows =>
        split at h
        · next hfence =>
            obtain ⟨-, -, hstatus, hcount, hrating, hfeedback, hdeleted⟩ := hfence
            obtain ⟨-, rfl⟩ := commitRows_eq_applied h
            exact ⟨rows, hrows, hstatus, hcount, hrating, hfeedback, hdeleted, rfl⟩
        · cases h

/-- An integrity change commits on rows whose outcome, revision and rating source are those it
read. -/
theorem commitIntegrityChanged_eq_applied {previous response : GuestResponse}
    {facts : List GuestMutationFact}
    (h : commitIntegrityChanged s previous response facts = .applied s') :
    ∃ rows, s.rows = some rows ∧ rows.columns.integrityOutcome = previous.integrityOutcome ∧
      rows.columns.ratingSourceEventId = previous.ratingSourceEventId ∧
      rows.columns.deletedAt = none ∧
      s' =
        ⟨some
          { rows with
            columns :=
              { rows.columns with
                integrityOutcome := response.integrityOutcome
                integrityReasonCode := response.integrityReasonCode
                integrityRevision := response.integrityRevision
                integrityAssessedAt := response.integrityAssessedAt
                ratingSourceEventId := ratingLineage response facts } },
          facts.reverse ++ s.facts⟩ := by
  unfold commitIntegrityChanged at h
  split at h
  · cases h
  · split at h
    · cases h
    · next rows hrows =>
        split at h
        · next hfence =>
            obtain ⟨-, houtcome, -, hrating, hdeleted⟩ := hfence
            obtain ⟨-, rfl⟩ := commitRows_eq_applied h
            exact ⟨rows, hrows, houtcome, hrating, hdeleted, rfl⟩
        · cases h

/-- Feedback commits on rows that have none. -/
theorem commitFeedbackAdded_eq_applied {response : GuestResponse} {eventId : Nat}
    {occurredAt : Int} (h : commitFeedbackAdded s response eventId occurredAt = .applied s') :
    ∃ rows text feedbackSubmittedAt binding, s.rows = some rows ∧
      response.feedbackSubmittedAt = some feedbackSubmittedAt ∧
      rows.columns.feedbackSourceEventId = none ∧ rows.columns.deletedAt = none ∧
      s' =
        ⟨some
          { columns :=
              { rows.columns with
                textConsent := response.textConsent
                feedbackSourceEventId := some eventId
                feedbackSubmittedAt := some feedbackSubmittedAt
                feedbackSubmissionRevision := response.feedbackSubmissionRevision }
            binding := some binding
            feedback := some
              ⟨text, feedbackSubmittedAt, feedbackSubmittedAt + privateFeedbackRetentionMs⟩ },
          .feedbackSubmitted eventId response.feedbackSubmissionRevision occurredAt ::
            s.facts⟩ := by
  unfold commitFeedbackAdded at h
  split at h
  · next text feedbackSubmittedAt sessionId expiresAt rows _ hsubmitted _ _ hrows =>
      split at h
      · cases h
      · split at h
        · next hfence =>
            obtain ⟨-, -, -, -, -, -, -, -, -, -, -, -, hsource, -, hdeleted⟩ := hfence
            obtain ⟨-, rfl⟩ := commitRows_eq_applied h
            exact ⟨rows, text, feedbackSubmittedAt, _, hrows, hsubmitted, hsource, hdeleted, rfl⟩
        · cases h
  · cases h

/-- A feedback withdrawal commits on rows whose feedback source is the one it read. -/
theorem commitFeedbackWithdrawn_eq_applied {previous response : GuestResponse} {eventId : Nat}
    {occurredAt : Int}
    (h : commitFeedbackWithdrawn s previous response eventId occurredAt = .applied s') :
    ∃ rows source feedbackWithdrawnAt, s.rows = some rows ∧
      rows.columns.feedbackSourceEventId = some source ∧
      s' =
        ⟨some
          { rows with
            columns :=
              { rows.columns with
                textConsent := false
                feedbackSourceEventId := none
                feedbackWithdrawnAt := some feedbackWithdrawnAt }
            feedback := none },
          .feedbackRetracted eventId source previous.feedbackSubmissionRevision occurredAt ::
            s.facts⟩ := by
  unfold commitFeedbackWithdrawn at h
  split at h
  · next text feedbackWithdrawnAt source rows _ _ _ hrows =>
      split at h
      · cases h
      · split at h
        · next hfence =>
            obtain ⟨-, -, -, -, -, -, -, hsource, -, -, -, -⟩ := hfence
            obtain ⟨-, rfl⟩ := commitRows_eq_applied h
            exact ⟨rows, source, feedbackWithdrawnAt, hrows, hsource, rfl⟩
        · cases h
  · cases h

/-- A withdrawal commits on rows whose sources are those it read, and empties them. -/
theorem commitWithdrawn_eq_applied {response : GuestResponse} {facts : List GuestMutationFact}
    (h : commitWithdrawn s response facts = .applied s') :
    ∃ rows, s.rows = some rows ∧
      rows.columns.ratingSourceEventId = response.ratingSourceEventId ∧
      rows.columns.feedbackSourceEventId = response.feedbackSourceEventId ∧
      s' =
        ⟨some
          { rows with
            columns :=
              { rows.columns with
                status := .deleted
                rating := none
                category := none
                responseConsent := false
                textConsent := false
                mediaConsent := false
                ratingSourceEventId := none
                feedbackSourceEventId := none
                deletedAt := response.deletedAt }
            feedback := none },
          facts.reverse ++ s.facts⟩ := by
  unfold commitWithdrawn at h
  split at h
  · cases h
  · next rows hrows =>
      split at h
      · next hfence =>
          obtain ⟨-, -, -, hrating, hfeedback, -⟩ := hfence
          obtain ⟨-, rfl⟩ := commitRows_eq_applied h
          exact ⟨rows, hrows, hrating, hfeedback, rfl⟩
      · cases h

/-! ## Use cases -/

/-- A submission that commits submits a response created for it. -/
theorem submit_eq_ok {request : SubmitRequest} (h : submit read s request moment = .ok (some s')) :
    ∃ created submitted, created.ratingSourceEventId = none ∧ created.feedbackSourceEventId = none ∧
      created.deletedAt = none ∧ created.correctionCount = 0 ∧
      request.input.givenRating ≠ none ∧
      submitResponse created request.input moment.now = .ok submitted ∧
      commitSubmitted s submitted (submissionFacts submitted moment.ids moment.now) =
        .applied s' := by
  unfold submit at h
  simp only at h
  split at h
  · cases h
  · split at h
    · cases h
    · split at h
      · cases h
      · next hgiven =>
          split at h
          · cases h
          · split at h
            · cases h
            · split at h
              · cases h
              · next submitted hsubmitted =>
                  split at h
                  · cases h
                  · split at h
                    · next s'' hcommit =>
                        cases h
                        exact ⟨_, submitted, rfl, rfl, rfl, rfl, hgiven, hsubmitted, hcommit⟩
                    · cases h
                    · cases h

/-- An addition of feedback that commits. -/
theorem addPrivateFeedback_eq_ok {sessionId : Nat} {text : Text} {textConsent : Bool}
    (h : addPrivateFeedback read s sessionId text textConsent moment = .ok (some s')) :
    ∃ old binding feedbackAdded, read.rows = some old ∧
      submitPrivateFeedback (guestResponseFromRow old binding moment.asOf) text textConsent
        moment.now = .ok feedbackAdded ∧
      commitFeedbackAdded s
        { feedbackAdded with sessionExpiresAt := some (moment.now + responseSessionWindowMs) }
        moment.ids.feedback (feedbackAdded.feedbackSubmittedAt.getD moment.now) =
          .applied s' := by
  unfold addPrivateFeedback at h
  split at h
  · cases h
  · next current hcurrent =>
      split at h
      · cases h
      · split at h
        · cases h
        · split at h
          · cases h
          · next feedbackAdded hadded =>
              obtain ⟨old, binding, hread, rfl⟩ := findForSession_eq_some hcurrent
              exact ⟨old, binding, feedbackAdded, hread, hadded, Commit.orThrow_eq_ok h⟩

/-- A withdrawal of feedback that commits. -/
theorem withdrawFeedback_eq_ok {sessionId : Nat}
    (h : withdrawFeedback read s sessionId moment = .ok (some s')) :
    ∃ previous withdrawn,
      commitFeedbackWithdrawn s previous withdrawn moment.ids.feedback
        (withdrawn.feedbackWithdrawnAt.getD moment.now) = .applied s' := by
  unfold withdrawFeedback at h
  split at h
  · cases h
  · next current hcurrent =>
      split at h
      · cases h
      · split at h
        · cases h
        · split at h
          · cases h
          · next withdrawn hwithdrawn =>
              exact ⟨current, withdrawn, Commit.orThrow_eq_ok h⟩

/-- A correction that commits. -/
theorem correct_eq_ok {sessionId : Nat} {input : GuestResponseInput}
    (h : correct read s sessionId input moment = .ok (some s')) :
    ∃ old binding corrected, read.rows = some old ∧ input.text = none ∧
      correctResponse (guestResponseFromRow old binding moment.asOf) input moment.now
        correctionWindowMs = .ok corrected ∧
      commitCorrected s (guestResponseFromRow old binding moment.asOf) corrected
        (correctionFacts (guestResponseFromRow old binding moment.asOf) corrected moment.ids
          moment.now) = .applied s' := by
  unfold correct at h
  split at h
  · cases h
  · next current hcurrent =>
      split at h
      · cases h
      · next htext =>
          split at h
          · cases h
          · split at h
            · cases h
            · next corrected hcorrected =>
                obtain ⟨old, binding, hread, rfl⟩ := findForSession_eq_some hcurrent
                exact ⟨old, binding, corrected, hread, not_not.1 htext, hcorrected,
                  Commit.orThrow_eq_ok h⟩

/-- An integrity change that commits. -/
theorem changeIntegrity_eq_ok {responseId : Nat} {input : IntegrityChangeInput}
    (h : changeIntegrity read s responseId input moment = .ok (some s')) :
    ∃ old binding changed facts, read.rows = some old ∧
      changeGuestResponseIntegrity (guestResponseFromRow old binding moment.asOf) input
        moment.now = .ok changed ∧
      integrityFacts (guestResponseFromRow old binding moment.asOf) changed moment.ids =
        .ok facts ∧
      commitIntegrityChanged s (guestResponseFromRow old binding moment.asOf) changed facts =
        .applied s' := by
  unfold changeIntegrity at h
  split at h
  · cases h
  · next current hcurrent =>
      split at h
      · cases h
      · split at h
        · cases h
        · next changed hchanged =>
            split at h
            · cases h
            · next facts hfacts =>
                obtain ⟨old, binding, hread, rfl⟩ := findById_eq_some hcurrent
                exact ⟨old, binding, changed, facts, hread, hchanged, hfacts,
                  Commit.orThrow_eq_ok h⟩

/-- A withdrawal of the response that commits. -/
theorem withdraw_eq_ok {sessionId : Nat} (h : withdraw read s sessionId moment = .ok (some s')) :
    ∃ previous deleted, deleteResponse previous moment.now = .ok deleted ∧
      commitWithdrawn s deleted (withdrawalFacts previous moment.ids moment.now) =
        .applied s' := by
  unfold withdraw at h
  split at h
  · cases h
  · next current hcurrent =>
      split at h
      · cases h
      · split at h
        · cases h
        · split at h
          · cases h
          · next deleted hdeleted =>
              exact ⟨current, deleted, withdrawResponse_eq_ok hdeleted, Commit.orThrow_eq_ok h⟩

end ReputationKey.Guest
