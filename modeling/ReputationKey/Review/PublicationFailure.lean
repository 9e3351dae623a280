import ReputationKey.Base.JsNumber
import ReputationKey.Review.Workflow
import ReputationKey.Shared.JsString

/-!
# Classes of publication failures

What the publish job concludes from whatever an attempt threw: the structural checks of the three
shapes that provider errors have, the evidence read off them, and the class. Follows
`src/src/contexts/review/domain/reply-publication-workflow.ts:286–528`.
-/

namespace ReputationKey.Review

open ReputationKey.Base
open ReputationKey.Shared (asciiText)

/-! ## Thrown values -/

/-- A value that may be thrown. An object tells for every key what reading it gives, if the key is
in the object; booleans, bigints, symbols and functions are alike here. -/
inductive Thrown
  | undefined
  | null
  | text (word : Text)
  | number (x : JsNumber)
  | others
  | object (fields : Text → Option Thrown)

namespace Thrown

/-- `fieldOf`. -/
def fieldOf : Thrown → Text → Thrown
  | .object fields, key => (fields key).getD .undefined
  | _, _ => .undefined

/-- A value that is a text. -/
def asText : Thrown → Option Text
  | .text word => some word
  | _ => none

/-- A value whose type is `number`. -/
def asNumber : Thrown → Option JsNumber
  | .number x => some x
  | _ => none

end Thrown

/-- The code of a value with a tag and a code: one check for the two shapes that have one. -/
def codeOfTagged (tag : Text) (err : Thrown) : Option Text :=
  if (err.fieldOf (asciiText "_tag")).asText = some tag then (err.fieldOf (asciiText "code")).asText
  else none

/-- `isIntegrationErrorShape`, with the code that it grants. -/
def isIntegrationErrorShape : Thrown → Option Text := codeOfTagged (asciiText "IntegrationError")

/-- `isReviewApiErrorShape`, with the code that it grants. -/
def isReviewApiErrorShape : Thrown → Option Text := codeOfTagged (asciiText "GoogleReviewApiError")

/-- The kinds of an error of the gateway. -/
inductive GbpApiErrorKind
  | authFailed
  | rateLimited
  | permissionDenied
  | upstreamError
  | parseError
  deriving DecidableEq, Repr

/-- The kind that a text names. -/
def gbpApiErrorKind (text : Text) : Option GbpApiErrorKind :=
  if text = asciiText "auth_failed" then some .authFailed
  else if text = asciiText "rate_limited" then some .rateLimited
  else if text = asciiText "permission_denied" then some .permissionDenied
  else if text = asciiText "upstream_error" then some .upstreamError
  else if text = asciiText "parse_error" then some .parseError
  else none

/-- `isGbpApiErrorShape`, with the kind that it grants. -/
def isGbpApiErrorShape (err : Thrown) : Option GbpApiErrorKind :=
  if (err.fieldOf (asciiText "_tag")).asText = some (asciiText "GbpApiError") then
    (err.fieldOf (asciiText "kind")).asText.bind gbpApiErrorKind
  else none

/-- `isAbortError`. -/
def isAbortError (err : Thrown) : Bool :=
  (err.fieldOf (asciiText "name")).asText == some (asciiText "AbortError")

/-! ## Evidence -/

/-- `PublicationFailureDispatch`. -/
inductive PublicationFailureDispatch
  | notSent
  | answered
  | unknown
  deriving DecidableEq, Repr

/-- `PublicationFailureEvidence`. -/
structure PublicationFailureEvidence where
  executionCode : Option Text
  dispatch : PublicationFailureDispatch
  providerStatus : Option JsNumber
  deriving DecidableEq

/-- `NO_EVIDENCE`. -/
def noEvidence : PublicationFailureEvidence := ⟨none, .unknown, none⟩

/-- `readDispatch`. -/
def readDispatch (value : Thrown) : PublicationFailureDispatch :=
  if value.asText = some (asciiText "not_sent") then .notSent
  else if value.asText = some (asciiText "answered") then .answered
  else .unknown

/-- `readCode`. -/
def readCode (value : Thrown) : Option Text := value.asText.filter fun text ↦ text != []

/-- `readStatus`. -/
def readStatus (value : Thrown) : Option JsNumber := value.asNumber.filter JsNumber.isSafeInteger

/-- `publicationFailureEvidence`. -/
def publicationFailureEvidence (err : Thrown) : PublicationFailureEvidence :=
  if (isReviewApiErrorShape err).isSome then
    match err.fieldOf (asciiText "failure") with
    | .object fields =>
        { executionCode := readCode ((Thrown.object fields).fieldOf (asciiText "executionCode"))
          dispatch := readDispatch ((Thrown.object fields).fieldOf (asciiText "dispatch"))
          providerStatus :=
            readStatus ((Thrown.object fields).fieldOf (asciiText "providerStatus")) }
    | _ => noEvidence
  else if (isGbpApiErrorShape err).isSome then
    { executionCode := (readCode (err.fieldOf (asciiText "executionAdmissionCode"))).or
        (readCode (err.fieldOf (asciiText "executionCode")))
      dispatch := readDispatch (err.fieldOf (asciiText "dispatch"))
      providerStatus := readStatus (err.fieldOf (asciiText "providerStatus")) }
  else noEvidence

/-! ## Classes -/

/-- `PRE_REQUEST_TERMINAL_CODES`. -/
def preRequestTerminalCodes : List Text :=
  [asciiText "connection_not_found", asciiText "connection_inactive",
    asciiText "connection_disconnected", asciiText "authorization_changed",
    asciiText "reauthorization_required"]

/-- `classifyByDispatch`. -/
def classifyByDispatch (evidence : PublicationFailureEvidence) : Option PublicationFailureClass :=
  match evidence.dispatch with
  | .notSent =>
      if evidence.executionCode = some (asciiText "malformed_request") then some .terminalRejection
      else some .retryable
  | .answered =>
      match evidence.providerStatus with
      | none => some .ambiguous
      | some status =>
          if status.strictEq (.finite 429) then some .retryable
          else if status.isAtLeast 400 && status.lt (.finite 500) then some .terminalRejection
          else some .ambiguous
  | .unknown => none

/-- `classifyGatewayError`. -/
def classifyGatewayError (err : Thrown) (kind : GbpApiErrorKind) : PublicationFailureClass :=
  if kind = .authFailed ∨ kind = .permissionDenied then .terminalRejection
  else
    match classifyByDispatch (publicationFailureEvidence err) with
    | some byDispatch => byDispatch
    | none => if kind = .rateLimited then .retryable else .ambiguous

/-- `classifyReviewApiError`. -/
def classifyReviewApiError (err : Thrown) (code : Text) : PublicationFailureClass :=
  if preRequestTerminalCodes.contains code ∨ code = asciiText "invalid_request" then
    .terminalRejection
  else
    match classifyByDispatch (publicationFailureEvidence err) with
    | some byDispatch => byDispatch
    | none => if code = asciiText "provider_rate_limited" then .retryable else .ambiguous

/-- `classifyGbpApiError`. -/
def classifyGbpApiError (context : Thrown) : PublicationFailureClass :=
  match (context.fieldOf (asciiText "status")).asNumber with
  | none => .ambiguous
  | some status =>
      if status.isAtLeast 400 && status.lt (.finite 500) then .terminalRejection
      else if status.isAtLeast 500 then .ambiguous
      else .ambiguous

/-- `classifyPublicationFailure`. -/
def classifyPublicationFailure (err : Thrown) : PublicationFailureClass :=
  if isAbortError err then .ambiguous
  else
    match isGbpApiErrorShape err with
    | some kind => classifyGatewayError err kind
    | none =>
        match isReviewApiErrorShape err with
        | some code => classifyReviewApiError err code
        | none =>
            match isIntegrationErrorShape err with
            | none => .ambiguous
            | some code =>
                if code = asciiText "gbp_api_rate_limited" then .retryable
                else if code = asciiText "gbp_api_error" then
                  classifyGbpApiError (err.fieldOf (asciiText "context"))
                else if code = asciiText "token_refresh_failed" then .retryable
                else if preRequestTerminalCodes.contains code then .terminalRejection
                else .ambiguous

/-- `publicationFailureCause`: whether the cause is that Google asks for a new consent. -/
def publicationFailureCause (err : Thrown) : Bool :=
  ((isReviewApiErrorShape err).or (isIntegrationErrorShape err)) ==
    some (asciiText "reauthorization_required")

end ReputationKey.Review
