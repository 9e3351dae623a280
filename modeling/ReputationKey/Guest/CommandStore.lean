import ReputationKey.Guest.ResponseSpec

/-!
# The guest-response commands and their store

The rows of one response, the facts recorded for it, the commits of the command store and the use
cases that read the response, compute its next state and its facts, and commit both under the
store's where-clause. The scope columns and the staff attribution of a response never change and
are left out with the comparisons on them. Follows
`src/src/contexts/guest/infrastructure/guest-response-command-store.ts:169–659` and
`src/src/contexts/guest/application/use-cases/guest-response-lifecycle.ts:283–708`.
-/

namespace ReputationKey.Guest

open ReputationKey.Base (JsNumber)
open ReputationKey.Review (Text)

/-- A fact a guest command records. -/
inductive GuestMutationFact
  | ratingSubmitted (eventId : Nat) (value : JsNumber) (supersedesSourceEventId : Option Nat)
      (occurredAt : Int)
  | ratingRetracted (eventId supersedesSourceEventId : Nat) (occurredAt : Int)
  | feedbackSubmitted (eventId : Nat) (responseRevision : Option Nat) (occurredAt : Int)
  | feedbackRetracted (eventId supersedesSourceEventId : Nat) (responseRevision : Option Nat)
      (occurredAt : Int)
  deriving DecidableEq, Repr

namespace GuestMutationFact

/-- The identity of a fact. -/
def eventId : GuestMutationFact → Nat
  | .ratingSubmitted eventId _ _ _ | .ratingRetracted eventId _ _
  | .feedbackSubmitted eventId _ _ | .feedbackRetracted eventId _ _ _ => eventId

/-- The fact this one replaces or takes back. -/
def supersedes : GuestMutationFact → Option Nat
  | .ratingSubmitted _ _ supersedesSourceEventId _ => supersedesSourceEventId
  | .ratingRetracted _ supersedesSourceEventId _
  | .feedbackRetracted _ supersedesSourceEventId _ _ => some supersedesSourceEventId
  | .feedbackSubmitted _ _ _ => none

/-- Whether the fact is about the rating. -/
def isRating : GuestMutationFact → Bool
  | .ratingSubmitted _ _ _ _ | .ratingRetracted _ _ _ => true
  | .feedbackSubmitted _ _ _ | .feedbackRetracted _ _ _ _ => false

/-- The revision a feedback fact names. -/
def feedbackRevision : GuestMutationFact → Option (Option Nat)
  | .feedbackSubmitted _ responseRevision _ | .feedbackRetracted _ _ responseRevision _ =>
      some responseRevision
  | .ratingSubmitted _ _ _ _ | .ratingRetracted _ _ _ => none

end GuestMutationFact

/-- The session a response is bound to. -/
structure SessionBinding where
  sessionId : Nat
  expiresAt : Int
  deriving DecidableEq, Repr

/-- The private feedback text of a response. -/
structure PrivateFeedbackRow where
  body : Text
  submittedAt : Int
  expiresAt : Int
  deriving DecidableEq, Repr

/-- The rows of one response: its columns, its binding and its feedback text. The columns are those
of the aggregate; text and session of the aggregate are in the other two rows. -/
structure ResponseRows where
  columns : GuestResponse
  binding : Option SessionBinding
  feedback : Option PrivateFeedbackRow
  deriving DecidableEq, Repr

/-- The rows of one response, if it was submitted, and every fact recorded for it, newest first. -/
structure Ledger where
  rows : Option ResponseRows
  facts : List GuestMutationFact
  deriving DecidableEq, Repr

/-! ## Reads -/

/-- The feedback text a read sees: expired text is not read. -/
def ResponseRows.readableText (rows : ResponseRows) (asOf : Int) : Option Text :=
  (rows.feedback.filter fun feedback ↦ decide (asOf < feedback.expiresAt)).map (·.body)

/-- The aggregate a row is read as. Follows
`src/src/contexts/guest/infrastructure/mappers/guest-response.mapper.ts:21–83`. -/
def guestResponseFromRow (rows : ResponseRows) (binding : Option SessionBinding) (asOf : Int) :
    GuestResponse :=
  { rows.columns with
    sessionId := binding.map (·.sessionId)
    sessionExpiresAt := binding.map (·.expiresAt)
    text := rows.readableText asOf
    correctionCount := if rows.columns.correctionCount = 1 then 1 else 0 }

/-- The response of a live session. Follows
`src/src/contexts/guest/infrastructure/repositories/guest-response.repository.ts:32–89`. -/
def findForSession (s : Ledger) (sessionId : Nat) (asOf : Int) : Option GuestResponse :=
  s.rows.bind fun rows ↦
    (rows.binding.filter fun binding ↦
      binding.sessionId == sessionId && decide (asOf < binding.expiresAt)).map fun binding ↦
        guestResponseFromRow rows (some binding) asOf

/-- The response by its identifier. Follows
`src/src/contexts/guest/infrastructure/repositories/guest-response.repository.ts:91–130`. -/
def findById (s : Ledger) (responseId : Nat) (asOf : Int) : Option GuestResponse :=
  (s.rows.filter fun rows ↦ rows.columns.id == responseId).map fun rows ↦
    guestResponseFromRow rows none asOf

/-! ## Facts of a command -/

/-- The identities the facts of one command get. -/
structure FactIds where
  rating : Nat
  feedback : Nat
  deriving DecidableEq, Repr

/-- Why a use case ends without a commit. -/
structure GuestResponseLifecycleError where
  code : String
  deriving DecidableEq, Repr

/-- The facts of a submission. -/
def submissionFacts (response : GuestResponse) (ids : FactIds) (now : Int) :
    List GuestMutationFact :=
  let occurredAt := response.submittedAt.getD now
  (match response.rating with
    | some rating =>
        if isRatingMetricEligible response then
          [.ratingSubmitted ids.rating rating none occurredAt]
        else []
    | none => []) ++
    if response.text.isSome && response.textConsent then
      [.feedbackSubmitted ids.feedback response.feedbackSubmissionRevision occurredAt]
    else []

/-- The comparison `before === after` of two ratings. -/
def isSameRating (before after : Option JsNumber) : Bool :=
  match before, after with
  | some before, some after => before.strictEq after
  | none, none => true
  | _, _ => false

/-- The rating fact of a correction. -/
def correctionRatingFacts (previous corrected : GuestResponse) (ids : FactIds) (occurredAt : Int) :
    List GuestMutationFact :=
  match isRatingMetricEligible corrected, corrected.rating, previous.ratingSourceEventId with
  | true, some rating, source =>
      if !isSameRating previous.rating corrected.rating || source.isNone then
        [.ratingSubmitted ids.rating rating source occurredAt]
      else []
  | false, _, some source => [.ratingRetracted ids.rating source occurredAt]
  | _, _, _ => []

/-- Whether feedback text is shared. -/
def isFeedbackShared (response : GuestResponse) : Bool :=
  response.text.isSome && response.textConsent

/-- The feedback fact of a correction. -/
def correctionFeedbackFacts (previous corrected : GuestResponse) (ids : FactIds)
    (occurredAt : Int) : List GuestMutationFact :=
  match isFeedbackShared corrected, previous.feedbackSourceEventId with
  | true, none =>
      [.feedbackSubmitted ids.feedback corrected.feedbackSubmissionRevision occurredAt]
  | false, some source =>
      [.feedbackRetracted ids.feedback source previous.feedbackSubmissionRevision occurredAt]
  | _, _ => []

/-- The facts of a correction. -/
def correctionFacts (previous corrected : GuestResponse) (ids : FactIds) (now : Int) :
    List GuestMutationFact :=
  let occurredAt := corrected.correctedAt.getD now
  correctionRatingFacts previous corrected ids occurredAt ++
    correctionFeedbackFacts previous corrected ids occurredAt

/-- The facts of a withdrawal. -/
def withdrawalFacts (response : GuestResponse) (ids : FactIds) (occurredAt : Int) :
    List GuestMutationFact :=
  (match response.ratingSourceEventId with
    | some source => [.ratingRetracted ids.rating source occurredAt]
    | none => []) ++
  (match response.feedbackSourceEventId with
    | some source =>
        [.feedbackRetracted ids.feedback source response.feedbackSubmissionRevision occurredAt]
    | none => [])

/-- The facts of an integrity change. -/
def integrityFacts (previous changed : GuestResponse) (ids : FactIds) :
    Except GuestResponseLifecycleError (List GuestMutationFact) :=
  match isRatingMetricEligible previous, isRatingMetricEligible changed, changed.rating with
  | true, false, _ =>
      match previous.ratingSourceEventId with
      | none => .error ⟨"response_unavailable"⟩
      | some source => .ok [.ratingRetracted ids.rating source changed.integrityAssessedAt]
  | false, true, some rating =>
      .ok [.ratingSubmitted ids.rating rating previous.ratingSourceEventId
        (ratingMetricOccurredAt changed)]
  | _, _, _ => .ok []

/-- Whether every fact the response should have is on record. -/
def hasKnownFactLineage (response : GuestResponse) : Bool :=
  !((isRatingMetricEligible response && response.ratingSourceEventId.isNone) ||
    (response.integrityOutcome != .accepted && response.ratingSourceEventId.isSome) ||
    (response.text.isSome && response.textConsent &&
      (response.feedbackSourceEventId.isNone ||
        !response.feedbackSubmissionRevision.any fun revision ↦ decide (0 < revision))))

/-! ## Commits -/

/-- What the store's columns hold as the source of a rating after some facts. -/
def ratingLineage (response : GuestResponse) (facts : List GuestMutationFact) : Option Nat :=
  match facts.find? (·.isRating) with
  | some (.ratingSubmitted eventId _ _ _) => some eventId
  | some (.ratingRetracted _ _ _) => none
  | _ => response.ratingSourceEventId

/-- What the store's columns hold as the source of feedback after some facts. -/
def feedbackLineage (response : GuestResponse) (facts : List GuestMutationFact) : Option Nat :=
  match facts.find? (!·.isRating) with
  | some (.feedbackSubmitted eventId _ _) => some eventId
  | some (.feedbackRetracted _ _ _ _) => none
  | _ => response.feedbackSourceEventId

/-- A rating the integer column and its range check take. -/
def isStorableRating (rating : Option JsNumber) : Bool :=
  rating.all fun
    | .finite value => decide (value.den = 1) && decide (1 ≤ value) && decide (value ≤ 5)
    | _ => false

/-- The other checks on the columns of a response. -/
def satisfiesChecks (columns : GuestResponse) : Bool :=
  isStorableRating columns.rating && isStorableRating columns.privateFeedbackThreshold &&
    decide (columns.correctionCount ≤ 1) &&
    (columns.feedbackWithdrawnAt.isNone ||
      (columns.feedbackSubmittedAt.isSome && !columns.textConsent &&
        columns.feedbackSourceEventId.isNone)) &&
    (match columns.feedbackSubmittedAt, columns.feedbackSubmissionRevision with
      | none, none => true
      | some _, some revision =>
          decide (1 ≤ revision) && decide (revision ≤ columns.correctionCount + 1)
      | _, _ => false)

/-- How a transaction ends: it commits, it loses its comparison, or the database refuses it. -/
inductive Commit
  | applied (s : Ledger)
  | lost
  | refused
  deriving DecidableEq, Repr

/-- Commit rows that satisfy the checks, with the facts of the command. -/
def commitRows (s : Ledger) (rows : ResponseRows) (facts : List GuestMutationFact) : Commit :=
  if satisfiesChecks rows.columns then .applied ⟨some rows, facts.reverse ++ s.facts⟩
  else .refused

/-- Whether the stored session is the one read, and live. -/
def sessionBindingExists (rows : ResponseRows) (response : GuestResponse) (asOf : Int)
    (matchExpiry : Bool) : Bool :=
  match response.sessionId, response.sessionExpiresAt with
  | some sessionId, some expiresAt =>
      rows.binding.any fun binding ↦
        binding.sessionId == sessionId && (!matchExpiry || binding.expiresAt == expiresAt) &&
          decide (asOf < binding.expiresAt)
  | _, _ => false

/-- The initial decision the store compares a submission with. -/
def initialIntegrityFactsMatch (response : GuestResponse) (facts : List GuestMutationFact) :
    Bool :=
  let ratingFacts := facts.filter fun
    | .ratingSubmitted _ _ _ _ => true
    | _ => false
  if !isRatingMetricEligible response then ratingFacts.isEmpty
  else
    match ratingFacts with
    | [.ratingSubmitted _ value supersedesSourceEventId occurredAt] =>
        response.rating.any value.strictEq && supersedesSourceEventId.isNone &&
          occurredAt == response.integrityAssessedAt
    | _ => false

/-- Insert a submitted response. -/
def commitSubmitted (s : Ledger) (response : GuestResponse) (facts : List GuestMutationFact) :
    Commit :=
  match response.sessionId, response.sessionExpiresAt, response.submittedAt with
  | some sessionId, some expiresAt, some submittedAt =>
      if facts.any fun
        | .feedbackSubmitted _ responseRevision _ =>
            responseRevision != response.feedbackSubmissionRevision
        | _ => false then
        .refused
      else if response.integrityAssessedAt ≠ submittedAt ∨
          !initialIntegrityFactsMatch response facts then
        .refused
      else if expiresAt - submittedAt ≠ responseSessionWindowMs then .lost
      else
        match s.rows with
        | some _ => .lost
        | none =>
            commitRows s
              { columns :=
                  { response with
                    sessionId := none
                    sessionExpiresAt := none
                    text := none
                    ratingSourceEventId := ratingLineage response facts
                    feedbackSourceEventId := feedbackLineage response facts }
                binding := some ⟨sessionId, expiresAt⟩
                feedback := response.text.map fun text ↦
                  ⟨text, response.feedbackSubmittedAt.getD submittedAt,
                    response.feedbackSubmittedAt.getD submittedAt + privateFeedbackRetentionMs⟩ }
              facts
  | _, _, _ => .refused

/-- Update the columns a correction rewrites. -/
def commitCorrected (s : Ledger) (previous response : GuestResponse)
    (facts : List GuestMutationFact) : Commit :=
  if facts.any fun fact ↦
      fact.feedbackRevision.any (· != response.feedbackSubmissionRevision) then
    .refused
  else
    match s.rows with
    | none => .lost
    | some rows =>
        if rows.columns.id = response.id ∧
            sessionBindingExists rows response (response.correctedAt.getD 0) true ∧
            rows.columns.status = previous.status ∧
            rows.columns.correctionCount = previous.correctionCount ∧
            rows.columns.ratingSourceEventId = previous.ratingSourceEventId ∧
            rows.columns.feedbackSourceEventId = previous.feedbackSourceEventId ∧
            rows.columns.deletedAt = none then
          commitRows s
            { rows with
              columns :=
                { rows.columns with
                  status := response.status
                  rating := response.rating
                  category := response.category
                  responseConsent := response.responseConsent
                  textConsent := response.textConsent
                  mediaConsent := response.mediaConsent
                  correctionCount := response.correctionCount
                  correctedAt := response.correctedAt
                  ratingSourceEventId := ratingLineage response facts
                  feedbackSourceEventId := feedbackLineage response facts } }
            facts
        else .lost

/-- Whether the facts of an integrity change are those its two states call for. -/
def integrityFactsMatch (previous response : GuestResponse) (facts : List GuestMutationFact) :
    Bool :=
  if facts.any (!·.isRating) then false
  else
    match isRatingMetricEligible previous, isRatingMetricEligible response, facts with
    | true, false, [.ratingRetracted _ supersedesSourceEventId occurredAt] =>
        previous.ratingSourceEventId == some supersedesSourceEventId &&
          occurredAt == response.integrityAssessedAt
    | false, true, [.ratingSubmitted _ value supersedesSourceEventId occurredAt] =>
        response.rating.any value.strictEq &&
          supersedesSourceEventId == previous.ratingSourceEventId &&
          occurredAt == ratingMetricOccurredAt response
    | true, true, [] | false, false, [] => true
    | _, _, _ => false

/-- Update the integrity columns. -/
def commitIntegrityChanged (s : Ledger) (previous response : GuestResponse)
    (facts : List GuestMutationFact) : Commit :=
  if response.integrityRevision ≠ previous.integrityRevision + 1 ∨ response.id ≠ previous.id ∨
      !integrityFactsMatch previous response facts then
    .refused
  else
    match s.rows with
    | none => .lost
    | some rows =>
        if rows.columns.id = previous.id ∧
            rows.columns.integrityOutcome = previous.integrityOutcome ∧
            rows.columns.integrityRevision = previous.integrityRevision ∧
            rows.columns.ratingSourceEventId = previous.ratingSourceEventId ∧
            rows.columns.deletedAt = none then
          commitRows s
            { rows with
              columns :=
                { rows.columns with
                  integrityOutcome := response.integrityOutcome
                  integrityReasonCode := response.integrityReasonCode
                  integrityRevision := response.integrityRevision
                  integrityAssessedAt := response.integrityAssessedAt
                  ratingSourceEventId := ratingLineage response facts } }
            facts
        else .lost

/-- Insert the feedback text and mark the response as having it. -/
def commitFeedbackAdded (s : Ledger) (response : GuestResponse) (eventId : Nat)
    (occurredAt : Int) : Commit :=
  match response.text, response.feedbackSubmittedAt, response.sessionId,
      response.sessionExpiresAt, s.rows with
  | some text, some feedbackSubmittedAt, some sessionId, some expiresAt, some rows =>
      if text = [] ∨ expiresAt - feedbackSubmittedAt ≠ responseSessionWindowMs then .lost
      else if rows.feedback = none ∧ rows.columns.id = response.id ∧
          sessionBindingExists rows response feedbackSubmittedAt false ∧
          rows.columns.status = response.status ∧ rows.columns.rating = response.rating ∧
          rows.columns.rating ≠ none ∧
          rows.columns.privateFeedbackThreshold = response.privateFeedbackThreshold ∧
          rows.columns.privateFeedbackThreshold ≠ none ∧
          rows.columns.correctionCount = response.correctionCount ∧
          rows.columns.ratingSourceEventId = response.ratingSourceEventId ∧
          rows.columns.feedbackSubmittedAt = none ∧ rows.columns.feedbackWithdrawnAt = none ∧
          rows.columns.feedbackSourceEventId = none ∧ rows.columns.textConsent = false ∧
          rows.columns.deletedAt = none then
        commitRows s
          { columns :=
              { rows.columns with
                textConsent := response.textConsent
                feedbackSourceEventId := some eventId
                feedbackSubmittedAt := some feedbackSubmittedAt
                feedbackSubmissionRevision := response.feedbackSubmissionRevision }
            binding := some ⟨sessionId, expiresAt⟩
            feedback := some
              ⟨text, feedbackSubmittedAt, feedbackSubmittedAt + privateFeedbackRetentionMs⟩ }
          [.feedbackSubmitted eventId response.feedbackSubmissionRevision occurredAt]
      else .lost
  | _, _, _, _, _ => .lost

/-- Delete the feedback text and leave its tombstone. -/
def commitFeedbackWithdrawn (s : Ledger) (previous response : GuestResponse) (eventId : Nat)
    (occurredAt : Int) : Commit :=
  match previous.text, response.feedbackWithdrawnAt, previous.feedbackSourceEventId, s.rows with
  | some text, some feedbackWithdrawnAt, some source, some rows =>
      if text = [] then .lost
      else if rows.columns.id = previous.id ∧
          sessionBindingExists rows previous feedbackWithdrawnAt true ∧
          rows.columns.status = previous.status ∧ rows.columns.rating = previous.rating ∧
          rows.columns.rating ≠ none ∧
          rows.columns.correctionCount = previous.correctionCount ∧
          rows.columns.ratingSourceEventId = previous.ratingSourceEventId ∧
          rows.columns.feedbackSourceEventId = some source ∧ rows.columns.textConsent = true ∧
          rows.columns.feedbackWithdrawnAt = none ∧ rows.columns.deletedAt = none ∧
          rows.feedback.any (·.body == text) then
        commitRows s
          { rows with
            columns :=
              { rows.columns with
                textConsent := false
                feedbackSourceEventId := none
                feedbackWithdrawnAt := some feedbackWithdrawnAt }
            feedback := none }
          [.feedbackRetracted eventId source previous.feedbackSubmissionRevision occurredAt]
      else .lost
  | _, _, _, _ => .lost

/-- Empty the response and delete its feedback text. -/
def commitWithdrawn (s : Ledger) (response : GuestResponse) (facts : List GuestMutationFact) :
    Commit :=
  match s.rows with
  | none => .lost
  | some rows =>
      if rows.columns.id = response.id ∧
          sessionBindingExists rows response (response.deletedAt.getD 0) true ∧
          rows.columns.correctionCount = response.correctionCount ∧
          rows.columns.ratingSourceEventId = response.ratingSourceEventId ∧
          rows.columns.feedbackSourceEventId = response.feedbackSourceEventId ∧
          rows.columns.deletedAt = none then
        commitRows s
          { rows with
            columns :=
              { rows.columns with
                status := .deleted
                rating := none
                category := none
                responseConsent := false
                textConsent := false
                mediaConsent := false
                ratingSourceEventId := none
                feedbackSourceEventId := none
                deletedAt := response.deletedAt }
            feedback := none }
          facts
      else .lost

end ReputationKey.Guest
