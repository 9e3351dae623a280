import ReputationKey.Base.JsNumber
import ReputationKey.Review.ReplyComment

/-!
# The guest response aggregate

A rating and its private feedback as one record, and the transitions the domain exports. A missing
input field is `none`, a field given as `null` is `some none`; times are epoch milliseconds. Follows
`src/src/contexts/guest/domain/guest-response.ts`,
`src/src/contexts/guest/domain/private-feedback-text.ts` and
`src/src/contexts/guest/domain/guest-response-integrity.ts`.
-/

namespace ReputationKey.Guest

open ReputationKey.Base (JsNumber)
open ReputationKey.Review (Text trim unifyLineBreaks isHighSurrogate isLowSurrogate)

/-- The status of a guest response. -/
inductive GuestResponseStatus
  | pending
  | submitted
  | corrected
  | moderated
  | deleted
  | expired
  deriving DecidableEq, Repr

/-- Whether a rating counts in the metrics. -/
inductive GuestResponseIntegrityOutcome
  | accepted
  | filteredAutomatically
  | underReview
  deriving DecidableEq, Repr

/-- The fields of a guest response that its transitions and its store read. -/
structure GuestResponse where
  id : Nat
  sessionId : Option Nat
  sessionExpiresAt : Option Int
  status : GuestResponseStatus
  integrityOutcome : GuestResponseIntegrityOutcome
  integrityReasonCode : String
  integrityRevision : Nat
  integrityAssessedAt : Int
  rating : Option JsNumber
  category : Option String
  text : Option Text
  responseConsent : Bool
  textConsent : Bool
  mediaConsent : Bool
  privateFeedbackThreshold : Option JsNumber
  ratingSourceEventId : Option Nat
  feedbackSourceEventId : Option Nat
  correctionCount : Nat
  submittedAt : Option Int
  correctedAt : Option Int
  feedbackSubmittedAt : Option Int
  feedbackSubmissionRevision : Option Nat
  feedbackWithdrawnAt : Option Int
  moderatedAt : Option Int
  deletedAt : Option Int
  retentionDeadline : Int
  deriving DecidableEq, Repr

/-- Why a transition is refused. -/
inductive ResponseError
  | alreadySubmitted
  | correctionWindowExpired
  | alreadyDeleted
  | ratingOutOfRange (rating : JsNumber)
  | textTooLong (length max : Nat)
  | noContent
  | feedbackNotEligible
  | feedbackAlreadySubmitted
  | feedbackNotFound
  | feedbackWithdrawalExpired
  | responseNotSubmitted
  | responseWithdrawalExpired
  deriving DecidableEq, Repr

/-- The longest private feedback, in code points. -/
def maxTextLength : Nat := 2000

/-- The highest rating. -/
def maxRating : ℚ := 5

/-- The lowest rating. -/
def minRating : ℚ := 1

/-- One hour. -/
def correctionWindowMs : Int := 60 * 60 * 1000

/-- One day. -/
def feedbackWithdrawalWindowMs : Int := 24 * 60 * 60 * 1000

/-- One day. -/
def responseWithdrawalWindowMs : Int := 24 * 60 * 60 * 1000

/-- One day. -/
def responseSessionWindowMs : Int := 24 * 60 * 60 * 1000

/-- Ninety days. -/
def privateFeedbackRetentionMs : Int := 90 * 24 * 60 * 60 * 1000

/-- Private feedback as it is stored: line breaks unified, white space trimmed. -/
def normalizePrivateFeedbackText (value : Text) : Text := trim (unifyLineBreaks value)

/-- The number of code points of a text. Follows `src/src/shared/domain/unicode.ts`. -/
def unicodeCodePointLength : Text → Nat
  | [] => 0
  | [_] => 1
  | unit :: next :: rest =>
      if isHighSurrogate unit && isLowSurrogate next then 1 + unicodeCodePointLength rest
      else 1 + unicodeCodePointLength (next :: rest)

/-- How a submission is first assessed. -/
structure GuestResponseInitialIntegrityAssessment where
  outcome : GuestResponseIntegrityOutcome
  reasonCode : String
  actorId : String
  deriving DecidableEq, Repr

/-- What a new response is created with. The experience snapshot gives its capture time and the
threshold for private feedback. -/
structure CreateResponse where
  id : Nat
  sessionId : Nat
  sessionExpiresAt : Int
  retentionDeadline : Int
  capturedAt : Int
  privateFeedbackThreshold : JsNumber
  integrityAssessment : GuestResponseInitialIntegrityAssessment
  deriving DecidableEq, Repr

/-- A response nothing was submitted for. -/
def createResponse (params : CreateResponse) : GuestResponse :=
  { id := params.id
    sessionId := some params.sessionId
    sessionExpiresAt := some params.sessionExpiresAt
    status := .pending
    integrityOutcome := params.integrityAssessment.outcome
    integrityReasonCode := params.integrityAssessment.reasonCode
    integrityRevision := 1
    integrityAssessedAt := params.capturedAt
    rating := none
    category := none
    text := none
    responseConsent := false
    textConsent := false
    mediaConsent := false
    privateFeedbackThreshold := some params.privateFeedbackThreshold
    ratingSourceEventId := none
    feedbackSourceEventId := none
    correctionCount := 0
    submittedAt := none
    correctedAt := none
    feedbackSubmittedAt := none
    feedbackSubmissionRevision := none
    feedbackWithdrawnAt := none
    moderatedAt := none
    deletedAt := none
    retentionDeadline := params.retentionDeadline }

/-- Add private written feedback after the rating. -/
def submitPrivateFeedback (response : GuestResponse) (typed : Text) (textConsent : Bool)
    (now : Int) : Except ResponseError GuestResponse :=
  if response.status = .deleted then .error .alreadyDeleted
  else if response.status ≠ .submitted ∧ response.status ≠ .corrected then
    .error .alreadySubmitted
  else if response.text ≠ none ∨ response.feedbackSourceEventId ≠ none ∨
      response.feedbackSubmittedAt ≠ none ∨ response.feedbackWithdrawnAt ≠ none then
    .error .feedbackAlreadySubmitted
  else
    match response.rating, response.privateFeedbackThreshold with
    | some rating, some threshold =>
        if threshold.lt rating then .error .feedbackNotEligible
        else
          let text := normalizePrivateFeedbackText typed
          let textLength := unicodeCodePointLength text
          if textLength = 0 then .error .noContent
          else if maxTextLength < textLength then .error (.textTooLong textLength maxTextLength)
          else if !textConsent then .error .noContent
          else
            .ok
              { response with
                text := some text
                textConsent := true
                feedbackSubmittedAt := some now
                feedbackSubmissionRevision := some (response.correctionCount + 1) }
    | _, _ => .error .feedbackNotEligible

/-- Withdraw the private feedback only; a tombstone stays. -/
def withdrawPrivateFeedback (response : GuestResponse) (now withdrawalWindowMs : Int) :
    Except ResponseError GuestResponse :=
  if response.status = .deleted then .error .alreadyDeleted
  else
    match response.text, response.feedbackSubmittedAt, response.feedbackSourceEventId with
    | some _, some feedbackSubmittedAt, some _ =>
        if withdrawalWindowMs < now - feedbackSubmittedAt then .error .feedbackWithdrawalExpired
        else
          .ok
            { response with
              text := none
              textConsent := false
              feedbackSourceEventId := none
              feedbackWithdrawnAt := some now }
    | _, _, _ => .error .feedbackNotFound

/-- Delete or anonymize a response. -/
def deleteResponse (response : GuestResponse) (now : Int) : Except ResponseError GuestResponse :=
  if response.status = .deleted then .error .alreadyDeleted
  else
    .ok
      { response with
        status := .deleted
        rating := none
        category := none
        text := none
        responseConsent := false
        textConsent := false
        mediaConsent := false
        feedbackSubmittedAt := response.feedbackSubmittedAt
        deletedAt := some now }

/-- Withdraw the whole response within its window. -/
def withdrawResponse (response : GuestResponse) (now withdrawalWindowMs : Int) :
    Except ResponseError GuestResponse :=
  if response.status = .deleted then .error .alreadyDeleted
  else
    match response.submittedAt with
    | none => .error .responseNotSubmitted
    | some submittedAt =>
        if withdrawalWindowMs < now - submittedAt then .error .responseWithdrawalExpired
        else deleteResponse response now

/-- What a guest gives in a submission or a correction. -/
structure GuestResponseInput where
  rating : Option (Option JsNumber)
  category : Option (Option String)
  text : Option (Option Text)
  responseConsent : Option Bool
  textConsent : Option Bool
  mediaConsent : Option Bool
  deriving DecidableEq, Repr

namespace GuestResponseInput

/-- The rating given, if one is. -/
def givenRating (params : GuestResponseInput) : Option JsNumber := params.rating.join

/-- The text given, normalized; nothing given is the empty text. -/
def givenText (params : GuestResponseInput) : Text :=
  (params.text.join.map normalizePrivateFeedbackText).getD []

/-- Whether the rating given is outside the range. -/
def ratingOutOfRange (params : GuestResponseInput) : Option JsNumber :=
  params.givenRating.filter fun rating ↦
    rating.lt (.finite minRating) || (JsNumber.finite maxRating).lt rating

end GuestResponseInput

/-- A text, or nothing where it is empty. -/
def textOrNull (text : Text) : Option Text := if text = [] then none else some text

/-- Submit a response. -/
def submitResponse (response : GuestResponse) (params : GuestResponseInput) (now : Int) :
    Except ResponseError GuestResponse :=
  if response.status = .deleted then .error .alreadyDeleted
  else if response.status ≠ .pending then .error .alreadySubmitted
  else if params.givenRating = none ∧ ¬ 0 < unicodeCodePointLength params.givenText then
    .error .noContent
  else
    match params.ratingOutOfRange with
    | some rating => .error (.ratingOutOfRange rating)
    | none =>
        let text := params.givenText
        let textLength := unicodeCodePointLength text
        if maxTextLength < textLength then .error (.textTooLong textLength maxTextLength)
        else if params.givenRating ≠ none ∧ params.responseConsent = some false then
          .error .noContent
        else if text ≠ [] ∧ params.textConsent = some false then .error .noContent
        else
          .ok
            { response with
              status := .submitted
              rating := params.givenRating
              category := params.category.join
              text := textOrNull text
              responseConsent := params.responseConsent.getD params.givenRating.isSome
              textConsent := params.textConsent.getD (decide (0 < text.length))
              mediaConsent := params.mediaConsent.getD false
              submittedAt := some now
              feedbackSubmittedAt := if text ≠ [] then some now else none
              feedbackSubmissionRevision := if text ≠ [] then some 1 else none }

/-- The text a correction leaves. -/
def correctedText (response : GuestResponse) (params : GuestResponseInput) : Option Text :=
  if params.text = none then response.text else textOrNull params.givenText

/-- Correct a submitted response within its window, once. -/
def correctResponse (response : GuestResponse) (params : GuestResponseInput)
    (now windowMs : Int) : Except ResponseError GuestResponse :=
  if response.status = .deleted then .error .alreadyDeleted
  else if response.status = .pending ∨ response.correctionCount ≠ 0 then .error .alreadySubmitted
  else if response.submittedAt.any fun submittedAt ↦ decide (windowMs < now - submittedAt) then
    .error .correctionWindowExpired
  else
    match params.ratingOutOfRange with
    | some rating => .error (.ratingOutOfRange rating)
    | none =>
        let textLength := unicodeCodePointLength params.givenText
        if maxTextLength < textLength then .error (.textTooLong textLength maxTextLength)
        else
          let rating := params.rating.getD response.rating
          let nextText := correctedText response params
          if rating = none ∧ nextText = none then .error .noContent
          else
            .ok
              { response with
                status := .corrected
                rating := rating
                category := params.category.getD response.category
                text := nextText
                responseConsent := params.responseConsent.getD response.responseConsent
                textConsent := params.textConsent.getD response.textConsent
                mediaConsent := params.mediaConsent.getD response.mediaConsent
                correctionCount := 1
                correctedAt := some now
                feedbackSubmissionRevision :=
                  response.feedbackSubmissionRevision.or
                    (if nextText ≠ none then some 2 else none) }

/-! ## Integrity -/

/-- Who decided about a response's integrity after it was submitted. -/
inductive IntegrityDecisionSource
  | automatic
  | reviewer
  deriving DecidableEq, Repr

/-- Why an integrity change is refused. -/
inductive GuestResponseIntegrityError
  | alreadyDeleted
  | responseNotSubmitted
  | integrityOutcomeUnchanged
  | invalidIntegrityReason
  | invalidIntegrityActor
  | invalidIntegrityTransition
  deriving DecidableEq, Repr

/-- The lower-case letters and digits. -/
def isLowerAlphanumeric (c : Char) : Bool := c.isDigit || c.isLower

/-- Whether two underscores follow each other. -/
def hasDoubleUnderscore : List Char → Bool
  | c :: d :: rest => (c == '_' && d == '_') || hasDoubleUnderscore (d :: rest)
  | _ => false

/-- Words of lower-case letters and digits, joined by single underscores. -/
def isReasonCode (value : String) : Bool :=
  let characters := value.toList
  !(characters.length == 0 || decide (100 < characters.length) ||
    characters.head? == some '_' || characters.getLast? == some '_' ||
    hasDoubleUnderscore characters) &&
    characters.all fun c ↦ c == '_' || isLowerAlphanumeric c

/-- An actor's identifier: it starts with a letter or digit and holds nothing else but six
punctuation marks. -/
def isActorId (value : String) : Bool :=
  let characters := value.toList
  characters.head?.any (fun c ↦ isLowerAlphanumeric c.toLower) &&
    decide (characters.length ≤ 255) &&
    characters.all fun c ↦ c.isAlphanum || ['.', '_', ':', '@', '/', '-'].contains c

/-- What an integrity change asks for. -/
structure IntegrityChangeInput where
  outcome : GuestResponseIntegrityOutcome
  reasonCode : String
  source : IntegrityDecisionSource
  actorId : String
  deriving DecidableEq, Repr

/-- Whether a rating counts. -/
def isRatingMetricEligible (response : GuestResponse) : Bool :=
  response.integrityOutcome == .accepted && response.rating.isSome && response.responseConsent

/-- When an eligible rating happened. -/
def ratingMetricOccurredAt (response : GuestResponse) : Int :=
  (response.correctedAt.or response.submittedAt).getD response.integrityAssessedAt

/-- Change whether a submitted rating counts. -/
def changeGuestResponseIntegrity (response : GuestResponse) (input : IntegrityChangeInput)
    (decidedAt : Int) : Except GuestResponseIntegrityError GuestResponse :=
  if response.status = .deleted then .error .alreadyDeleted
  else if response.status = .pending then .error .responseNotSubmitted
  else if !isReasonCode input.reasonCode then .error .invalidIntegrityReason
  else if !isActorId input.actorId then .error .invalidIntegrityActor
  else if input.outcome = response.integrityOutcome then .error .integrityOutcomeUnchanged
  else if input.source = .reviewer ∧ input.outcome = .filteredAutomatically then
    .error .invalidIntegrityTransition
  else
    .ok
      { response with
        integrityOutcome := input.outcome
        integrityReasonCode := input.reasonCode
        integrityRevision := response.integrityRevision + 1
        integrityAssessedAt := decidedAt }

end ReputationKey.Guest
