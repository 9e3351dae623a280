import ReputationKey.Guest.Response

/-!
# What each transition of a guest response does

One lemma for each transition: what it starts from and the response it leaves.
-/

namespace ReputationKey.Guest

open ReputationKey.Base
open ReputationKey.Review (Text)

variable {response response' : GuestResponse}

/-- A rating inside the range, or NaN, which no range test refuses. -/
def mayBeRating (rating : JsNumber) : Prop := rating = .nan ∨ rating.isWithin minRating maxRating

/-- A rating that fails no range test may be a rating. -/
theorem mayBeRating_of_inRange {params : GuestResponseInput} (h : params.ratingOutOfRange = none)
    {rating : JsNumber} (given : params.givenRating = some rating) : mayBeRating rating := by
  unfold GuestResponseInput.ratingOutOfRange at h
  rw [given, Option.filter_some] at h
  split at h
  · cases h
  · next hrange =>
      rw [Bool.not_eq_true, Bool.or_eq_false_iff] at hrange
      exact JsNumber.eq_nan_or_isWithin hrange.1 hrange.2

/-- A submission starts from a pending response, and records text with its consent and time. -/
theorem submitResponse_eq_ok {params : GuestResponseInput} {now : Int}
    (h : submitResponse response params now = .ok response') :
    response.status = .pending ∧ response'.status = .submitted ∧
      (∀ rating, response'.rating = some rating → mayBeRating rating) ∧
      response'.text = textOrNull params.givenText ∧
      (params.givenText ≠ [] →
        response'.textConsent = true ∧ response'.feedbackSubmittedAt = some now) ∧
      response'.feedbackWithdrawnAt = response.feedbackWithdrawnAt ∧
      response'.correctionCount = response.correctionCount := by
  unfold submitResponse at h
  split at h
  · cases h
  · split at h
    · cases h
    · next hpending =>
        split at h
        · cases h
        · split at h
          · cases h
          · next hrange =>
              simp only at h
              split at h
              · cases h
              · split at h
                · cases h
                · split at h
                  · cases h
                  · next hconsent =>
                      cases h
                      refine ⟨not_not.1 hpending, rfl, fun rating hrating ↦
                        mayBeRating_of_inRange hrange hrating, rfl, fun htext ↦ ⟨?_, ?_⟩, rfl, rfl⟩
                      · cases hgiven : params.textConsent with
                        | none => simpa [List.length_pos_iff] using htext
                        | some consent =>
                            cases consent with
                            | false => exact absurd ⟨htext, hgiven⟩ hconsent
                            | true => rfl
                      · exact if_pos htext

/-- A submission records what was given at the time it was given, and keeps the rest. -/
theorem submitResponse_records {params : GuestResponseInput} {now : Int}
    (h : submitResponse response params now = .ok response') :
    response'.rating = params.givenRating ∧
      (params.givenRating ≠ none → response'.responseConsent = true) ∧
      response'.submittedAt = some now ∧ response'.feedbackSubmittedAt.getD now = now ∧
      response'.deletedAt = response.deletedAt ∧
      response'.ratingSourceEventId = response.ratingSourceEventId ∧
      response'.feedbackSourceEventId = response.feedbackSourceEventId := by
  unfold submitResponse at h
  split at h
  · cases h
  · split at h
    · cases h
    · split at h
      · cases h
      · split at h
        · cases h
        · simp only at h
          split at h
          · cases h
          · split at h
            · cases h
            · next hconsent =>
                split at h
                · cases h
                · cases h
                  refine ⟨rfl, fun hgiven ↦ ?_, rfl, ?_, rfl, rfl, rfl⟩
                  · have hnotRefused : params.responseConsent ≠ some false :=
                      fun hfalse ↦ hconsent ⟨hgiven, hfalse⟩
                    cases hresponse : params.responseConsent with
                    | none => simpa [Option.isSome_iff_ne_none] using hgiven
                    | some consent =>
                        cases consent with
                        | false => exact absurd hresponse hnotRefused
                        | true => rfl
                  · change (if params.givenText ≠ [] then some now else none).getD now = now
                    split <;> rfl

/-- Feedback is added to a submitted response that has none, with consent and its time. -/
theorem submitPrivateFeedback_eq_ok {typed : Text} {textConsent : Bool} {now : Int}
    (h : submitPrivateFeedback response typed textConsent now = .ok response') :
    (response.status = .submitted ∨ response.status = .corrected) ∧
      response.text = none ∧ response.feedbackSourceEventId = none ∧
      response.feedbackSubmittedAt = none ∧ response.feedbackWithdrawnAt = none ∧
      response.rating ≠ none ∧
      response' =
        { response with
          text := some (normalizePrivateFeedbackText typed)
          textConsent := true
          feedbackSubmittedAt := some now
          feedbackSubmissionRevision := some (response.correctionCount + 1) } := by
  unfold submitPrivateFeedback at h
  split at h
  · cases h
  · split at h
    · cases h
    · next hstatus =>
        split at h
        · cases h
        · next hnone =>
            simp only [not_or, not_not] at hnone
            split at h
            · next rating threshold hrating hthreshold =>
                split at h
                · cases h
                · simp only at h
                  split at h
                  · cases h
                  · split at h
                    · cases h
                    · split at h
                      · cases h
                      · cases h
                        refine ⟨?_, hnone.1, hnone.2.1, hnone.2.2.1, hnone.2.2.2,
                          by simp [hrating], rfl⟩
                        by_contra hother
                        exact hstatus (not_or.1 hother)
            · cases h

/-- Feedback is withdrawn whole, and the tombstone stays. -/
theorem withdrawPrivateFeedback_eq_ok {now withdrawalWindowMs : Int}
    (h : withdrawPrivateFeedback response now withdrawalWindowMs = .ok response') :
    response.status ≠ .deleted ∧ response.text ≠ none ∧ response.feedbackSourceEventId ≠ none ∧
      response' =
        { response with
          text := none
          textConsent := false
          feedbackSourceEventId := none
          feedbackWithdrawnAt := some now } := by
  unfold withdrawPrivateFeedback at h
  split at h
  · cases h
  · next hdeleted =>
      split at h
      · next text submittedAt source htext hsubmitted hsource =>
          split at h
          · cases h
          · cases h
            exact ⟨hdeleted, by simp [htext], by simp [hsource], rfl⟩
      · cases h

/-- A deletion empties a response that was not deleted. -/
theorem deleteResponse_eq_ok {now : Int} (h : deleteResponse response now = .ok response') :
    response.status ≠ .deleted ∧
      response' =
        { response with
          status := .deleted
          rating := none
          category := none
          text := none
          responseConsent := false
          textConsent := false
          mediaConsent := false
          deletedAt := some now } := by
  unfold deleteResponse at h
  split at h
  · cases h
  · next hdeleted =>
      cases h
      exact ⟨hdeleted, rfl⟩

/-- A withdrawal is a deletion within its window. -/
theorem withdrawResponse_eq_ok {now withdrawalWindowMs : Int}
    (h : withdrawResponse response now withdrawalWindowMs = .ok response') :
    deleteResponse response now = .ok response' := by
  unfold withdrawResponse at h
  split at h
  · cases h
  · split at h
    · cases h
    · split at h
      · cases h
      · exact h

/-- A correction is the first of a submitted response. -/
theorem correctResponse_eq_ok {params : GuestResponseInput} {now windowMs : Int}
    (h : correctResponse response params now windowMs = .ok response') :
    response.status ≠ .deleted ∧ response.status ≠ .pending ∧ response.correctionCount = 0 ∧
      (∀ submittedAt, response.submittedAt = some submittedAt → now - submittedAt ≤ windowMs) ∧
      params.ratingOutOfRange = none ∧
      response' =
        { response with
          status := .corrected
          rating := params.rating.getD response.rating
          category := params.category.getD response.category
          text := correctedText response params
          responseConsent := params.responseConsent.getD response.responseConsent
          textConsent := params.textConsent.getD response.textConsent
          mediaConsent := params.mediaConsent.getD response.mediaConsent
          correctionCount := 1
          correctedAt := some now
          feedbackSubmissionRevision :=
            response.feedbackSubmissionRevision.or
              (if correctedText response params ≠ none then some 2 else none) } := by
  unfold correctResponse at h
  split at h
  · cases h
  · next hdeleted =>
      split at h
      · cases h
      · next hpending =>
          simp only [not_or, not_not] at hpending
          split at h
          · cases h
          · next hwindow =>
              split at h
              · cases h
              · next hrange =>
                  simp only at h
                  split at h
                  · cases h
                  · split at h
                    · cases h
                    · cases h
                      refine ⟨hdeleted, hpending.1, hpending.2, fun submittedAt hsubmitted ↦ ?_,
                        hrange, rfl⟩
                      rw [hsubmitted] at hwindow
                      simpa using hwindow

/-- An integrity change moves the integrity fields of a submitted response. -/
theorem changeGuestResponseIntegrity_eq_ok {input : IntegrityChangeInput} {decidedAt : Int}
    (h : changeGuestResponseIntegrity response input decidedAt = .ok response') :
    response.status ≠ .deleted ∧ response.status ≠ .pending ∧
      input.outcome ≠ response.integrityOutcome ∧
      response' =
        { response with
          integrityOutcome := input.outcome
          integrityReasonCode := input.reasonCode
          integrityRevision := response.integrityRevision + 1
          integrityAssessedAt := decidedAt } := by
  unfold changeGuestResponseIntegrity at h
  split at h
  · cases h
  · next hdeleted =>
      split at h
      · cases h
      · next hpending =>
          split at h
          · cases h
          · split at h
            · cases h
            · split at h
              · cases h
              · next hchanged =>
                  split at h
                  · cases h
                  · cases h
                    exact ⟨hdeleted, hpending, hchanged, rfl⟩

end ReputationKey.Guest
