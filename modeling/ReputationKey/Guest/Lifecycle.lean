import ReputationKey.Base.Run
import ReputationKey.Base.Supersession
import ReputationKey.Guest.CommandStore

/-!
# The guest-response use cases as one system

Each command reads the response at some earlier point of the run, computes its next state and its
facts from that read, and commits on the rows as they are. Follows
`src/src/contexts/guest/application/use-cases/guest-response-lifecycle.ts:477–708`.
-/

namespace ReputationKey.Guest

open ReputationKey.Base
open ReputationKey.Review (Text trim)

/-- The end of a use case: an error, an answer without a write, or the ledger it committed. -/
abbrev Outcome := Except GuestResponseLifecycleError (Option Ledger)

/-- A commit as the use case ends after it: a lost comparison throws its own code. -/
def Commit.orThrow (lostCode : String) : Commit → Outcome
  | .applied s => .ok (some s)
  | .lost => .error ⟨lostCode⟩
  | .refused => .error ⟨"error"⟩

/-- The message of a refused transition. -/
def ResponseError.code : ResponseError → String
  | .alreadySubmitted => "already_submitted"
  | .correctionWindowExpired => "correction_window_expired"
  | .alreadyDeleted => "already_deleted"
  | .ratingOutOfRange _ => "rating_out_of_range"
  | .textTooLong _ _ => "text_too_long"
  | .noContent => "no_content"
  | .feedbackNotEligible => "feedback_not_eligible"
  | .feedbackAlreadySubmitted => "feedback_already_submitted"
  | .feedbackNotFound => "feedback_not_found"
  | .feedbackWithdrawalExpired => "feedback_withdrawal_expired"
  | .responseNotSubmitted => "response_not_submitted"
  | .responseWithdrawalExpired => "response_withdrawal_expired"

/-- The message of a refused integrity change. -/
def GuestResponseIntegrityError.code : GuestResponseIntegrityError → String
  | .alreadyDeleted => "already_deleted"
  | .responseNotSubmitted => "response_not_submitted"
  | .integrityOutcomeUnchanged => "integrity_outcome_unchanged"
  | .invalidIntegrityReason => "invalid_integrity_reason"
  | .invalidIntegrityActor => "invalid_integrity_actor"
  | .invalidIntegrityTransition => "invalid_integrity_transition"

/-- What a guest submits, with the session it is bound to. -/
structure SubmitRequest where
  newId : Nat
  sessionId : Nat
  input : GuestResponseInput
  privateFeedbackThreshold : JsNumber
  sessionExpiresAt : Option Int
  retentionDeadline : Int
  assessment : GuestResponseInitialIntegrityAssessment
  deriving DecidableEq, Repr

/-- The threshold a Portal may be published with. -/
def isFeedbackThreshold : JsNumber → Bool
  | .finite value => decide (value.den = 1) && decide (1 ≤ value) && decide (value ≤ 5)
  | _ => false

/-- When a command reads the clock, and the identities its facts get. -/
structure Moment where
  asOf : Int
  now : Int
  ids : FactIds
  deriving DecidableEq, Repr

/-- Submit a rating for a session that has no response. -/
def submit (read s : Ledger) (request : SubmitRequest) (moment : Moment) : Outcome :=
  let now := moment.now
  let bindingExpiresAt := request.sessionExpiresAt.getD (now + responseSessionWindowMs)
  if bindingExpiresAt - now ≠ responseSessionWindowMs then .error ⟨"response_unavailable"⟩
  else if (findForSession read request.sessionId now).isSome then .ok none
  else if request.input.givenRating = none then .error ⟨"rating_required"⟩
  else if request.input.text.join.any fun text ↦ decide (trim text ≠ []) then
    .error ⟨"feedback_must_follow_rating"⟩
  else if !isFeedbackThreshold request.privateFeedbackThreshold then
    .error ⟨"response_unavailable"⟩
  else
    match submitResponse
        (createResponse
          { id := request.newId
            sessionId := request.sessionId
            sessionExpiresAt := bindingExpiresAt
            retentionDeadline := request.retentionDeadline
            capturedAt := now
            privateFeedbackThreshold := request.privateFeedbackThreshold
            integrityAssessment := request.assessment }) request.input now with
    | .error e => .error ⟨e.code⟩
    | .ok submitted =>
        if !isReasonCode request.assessment.reasonCode ||
            !isActorId request.assessment.actorId then
          .error ⟨"error"⟩
        else
          match commitSubmitted s submitted (submissionFacts submitted moment.ids now) with
          | .applied s' => .ok (some s')
          | .lost => .ok none
          | .refused => .error ⟨"error"⟩

/-- Add private feedback to the response of a session. -/
def addPrivateFeedback (read s : Ledger) (sessionId : Nat) (text : Text) (textConsent : Bool)
    (moment : Moment) : Outcome :=
  match findForSession read sessionId moment.asOf with
  | none => .error ⟨"response_not_found"⟩
  | some current =>
      if current.text.isSome && current.feedbackSubmittedAt.isSome &&
          current.feedbackSourceEventId.isSome then
        .ok none
      else if !hasKnownFactLineage current then .error ⟨"response_unavailable"⟩
      else
        match submitPrivateFeedback current text textConsent moment.now with
        | .error e => .error ⟨e.code⟩
        | .ok feedbackAdded =>
            (commitFeedbackAdded s
              { feedbackAdded with
                sessionExpiresAt := some (moment.now + responseSessionWindowMs) }
              moment.ids.feedback (feedbackAdded.feedbackSubmittedAt.getD moment.now)).orThrow
                "feedback_already_submitted"

/-- Withdraw the private feedback of a session's response. -/
def withdrawFeedback (read s : Ledger) (sessionId : Nat) (moment : Moment) : Outcome :=
  match findForSession read sessionId moment.asOf with
  | none => .error ⟨"response_not_found"⟩
  | some current =>
      if current.feedbackWithdrawnAt.isSome then .ok none
      else if !hasKnownFactLineage current then .error ⟨"response_unavailable"⟩
      else
        match withdrawPrivateFeedback current moment.now feedbackWithdrawalWindowMs with
        | .error e => .error ⟨e.code⟩
        | .ok withdrawn =>
            (commitFeedbackWithdrawn s current withdrawn moment.ids.feedback
              (withdrawn.feedbackWithdrawnAt.getD moment.now)).orThrow "response_unavailable"

/-- Correct the response of a session once; feedback text has its own command. -/
def correct (read s : Ledger) (sessionId : Nat) (input : GuestResponseInput) (moment : Moment) :
    Outcome :=
  match findForSession read sessionId moment.asOf with
  | none => .error ⟨"response_not_found"⟩
  | some current =>
      if input.text ≠ none then .error ⟨"feedback_must_use_separate_action"⟩
      else if !hasKnownFactLineage current then .error ⟨"response_unavailable"⟩
      else
        match correctResponse current input moment.now correctionWindowMs with
        | .error e => .error ⟨e.code⟩
        | .ok corrected =>
            (commitCorrected s current corrected
              (correctionFacts current corrected moment.ids moment.now)).orThrow
                "already_submitted"

/-- Change whether the rating of a response counts. -/
def changeIntegrity (read s : Ledger) (responseId : Nat) (input : IntegrityChangeInput)
    (moment : Moment) : Outcome :=
  match findById read responseId moment.asOf with
  | none => .error ⟨"response_not_found"⟩
  | some current =>
      if !hasKnownFactLineage current then .error ⟨"response_unavailable"⟩
      else
        match changeGuestResponseIntegrity current input moment.now with
        | .error e => .error ⟨e.code⟩
        | .ok changed =>
            match integrityFacts current changed moment.ids with
            | .error e => .error e
            | .ok facts =>
                (commitIntegrityChanged s current changed facts).orThrow "response_unavailable"

/-- Withdraw the whole response of a session. -/
def withdraw (read s : Ledger) (sessionId : Nat) (moment : Moment) : Outcome :=
  match findForSession read sessionId moment.asOf with
  | none => .error ⟨"response_not_found"⟩
  | some current =>
      if current.status = .deleted then .ok none
      else if !hasKnownFactLineage current then .error ⟨"response_unavailable"⟩
      else
        match withdrawResponse current moment.now responseWithdrawalWindowMs with
        | .error e => .error ⟨e.code⟩
        | .ok deleted =>
            (commitWithdrawn s deleted (withdrawalFacts current moment.ids moment.now)).orThrow
              "response_unavailable"

/-- A guest-response command. -/
inductive GuestCommand
  | submit (request : SubmitRequest)
  | addPrivateFeedback (sessionId : Nat) (text : Text) (textConsent : Bool)
  | withdrawFeedback (sessionId : Nat)
  | correct (sessionId : Nat) (input : GuestResponseInput)
  | changeIntegrity (responseId : Nat) (input : IntegrityChangeInput)
  | withdraw (sessionId : Nat)
  deriving DecidableEq

/-- A command with the ledger it read and the moments it ran at. -/
structure GuestEvent where
  command : GuestCommand
  read : Ledger
  moment : Moment
  deriving DecidableEq

/-- What the command does to the ledger as it is when it commits. -/
def GuestEvent.apply (e : GuestEvent) (s : Ledger) : Outcome :=
  match e.command with
  | .submit request => Guest.submit e.read s request e.moment
  | .addPrivateFeedback sessionId text textConsent =>
      Guest.addPrivateFeedback e.read s sessionId text textConsent e.moment
  | .withdrawFeedback sessionId => Guest.withdrawFeedback e.read s sessionId e.moment
  | .correct sessionId input => Guest.correct e.read s sessionId input e.moment
  | .changeIntegrity responseId input =>
      Guest.changeIntegrity e.read s responseId input e.moment
  | .withdraw sessionId => Guest.withdraw e.read s sessionId e.moment

/-- What holds of a command's circumstances: it read a ledger of the run, at a time that is not
before the response was submitted and not after the time of its own move, and its facts have new
identities. -/
structure GuestEvent.Admissible (seen : Ledger → Prop) (s : Ledger) (e : GuestEvent) : Prop where
  read : seen e.read
  clock : e.moment.asOf ≤ e.moment.now ∧ ∀ rows submittedAt, e.read.rows = some rows →
    rows.columns.submittedAt = some submittedAt → submittedAt ≤ e.moment.asOf
  fresh : ∀ fact ∈ s.facts, ∀ newId, newId = e.moment.ids.rating ∨ newId = e.moment.ids.feedback →
    fact.eventId ≠ newId ∧ fact.supersedes ≠ some newId

/-- Runs of the guest-response commands on one response. -/
def guestSystem : ReadSystem Ledger GuestEvent where
  init s := s = ⟨none, []⟩
  step seen s e s' := e.Admissible seen s ∧ e.apply s = .ok (some s')

end ReputationKey.Guest
