import ReputationKey.Review.PublicationFailure

/-!
# Failure classes follow the evidence

What each class of a publication failure says about Google. The shapes that record a dispatch are
classed by it; the integration error has a status only, of which it takes a 429 for a refusal.
-/

namespace ReputationKey.Review

open ReputationKey.Base
open ReputationKey.Shared (asciiText)

/-! ## What a thrown value records -/

/-- What a thrown value is taken for. -/
inductive FailureShape
  | abort
  | gateway (kind : GbpApiErrorKind)
  | review (code : Text)
  | integration (code : Text)
  | unrecognised
  deriving DecidableEq

/-- The shape of a thrown value. -/
def shapeOf (err : Thrown) : FailureShape :=
  if isAbortError err then .abort
  else
    match isGbpApiErrorShape err, isReviewApiErrorShape err, isIntegrationErrorShape err with
    | some kind, _, _ => .gateway kind
    | none, some code, _ => .review code
    | none, none, some code => .integration code
    | none, none, none => .unrecognised

namespace FailureShape

/-- A kind or a code that is a refusal. -/
def isRefusal : FailureShape → Bool
  | gateway kind => kind == .authFailed || kind == .permissionDenied
  | review code => preRequestTerminalCodes.contains code || code == asciiText "invalid_request"
  | integration code => preRequestTerminalCodes.contains code
  | _ => false

/-- A kind or a code of a rate limit. -/
def isRateLimit : FailureShape → Bool
  | gateway kind => kind == .rateLimited
  | review code => code == asciiText "provider_rate_limited"
  | integration code => code == asciiText "gbp_api_rate_limited"
  | _ => false

/-- A code of a token that was not refreshed. -/
def isTokenRefresh : FailureShape → Bool
  | integration code => code == asciiText "token_refresh_failed"
  | _ => false

/-- A kind or a code that leaves the class to the evidence. -/
def isPlain (shape : FailureShape) : Bool :=
  !shape.isRefusal && !shape.isRateLimit && !shape.isTokenRefresh

/-- A shape with a field for the dispatch. -/
def recordsDispatch : FailureShape → Bool
  | gateway _ | review _ => true
  | _ => false

/-- The shape of an integration error. -/
def isIntegration : FailureShape → Bool
  | integration _ => true
  | _ => false

end FailureShape

/-- The evidence in the fields that a shape has for it. An integration error has no dispatch: a
status in its context is an answer's. -/
def recorded (err : Thrown) : PublicationFailureEvidence :=
  match shapeOf err with
  | .gateway _ | .review _ => publicationFailureEvidence err
  | .integration _ =>
      let status := ((err.fieldOf (asciiText "context")).fieldOf (asciiText "status")).asNumber
      { executionCode := none
        dispatch := if status.isSome then .answered else .unknown
        providerStatus := status }
  | _ => noEvidence

namespace PublicationFailureEvidence

/-- Nothing was sent, though not because the request would not compile. -/
def IsUnsent (evidence : PublicationFailureEvidence) : Prop :=
  evidence.dispatch = .notSent ∧ evidence.executionCode ≠ some (asciiText "malformed_request")

/-- The request did not compile. -/
def IsCompileRefusal (evidence : PublicationFailureEvidence) : Prop :=
  evidence.dispatch = .notSent ∧ evidence.executionCode = some (asciiText "malformed_request")

/-- Google answered with a status. -/
def Answered (evidence : PublicationFailureEvidence) (status : JsNumber) : Prop :=
  evidence.dispatch = .answered ∧ evidence.providerStatus = some status

/-- Google answered 429. -/
def IsRateLimitAnswer (evidence : PublicationFailureEvidence) : Prop :=
  evidence.Answered (.finite 429)

/-- Google answered 4xx, other than 429. -/
def IsRefusalAnswer (evidence : PublicationFailureEvidence) : Prop :=
  ∃ status, evidence.Answered status ∧ status ≠ .finite 429 ∧ status.isAtLeast 400 = true ∧
    status.lt (.finite 500) = true

/-- A status of 5xx. -/
def HasServerError (evidence : PublicationFailureEvidence) : Prop :=
  ∃ status, evidence.providerStatus = some status ∧ status.isAtLeast 500 = true ∧
    status.lt (.finite 600) = true

/-- Google answered 5xx. -/
def IsServerAnswer (evidence : PublicationFailureEvidence) : Prop :=
  evidence.dispatch = .answered ∧ evidence.HasServerError

/-- Nothing tells whether the request was sent. -/
def IsBlank (evidence : PublicationFailureEvidence) : Prop :=
  evidence.dispatch = .unknown ∧ evidence.providerStatus = none

end PublicationFailureEvidence

/-! ## The rules, one by one -/

theorem strictEq_finite_iff {status : JsNumber} {value : ℚ} :
    status.strictEq (.finite value) = true ↔ status = .finite value := by
  cases status <;> simp [JsNumber.strictEq]

/-- A status of 5xx is none of 4xx. -/
theorem lt_of_isAtLeast {status : JsNumber} (h : status.isAtLeast 500 = true) :
    status.lt (.finite 500) = false := by
  cases status with
  | finite value =>
      rw [JsNumber.isAtLeast, decide_eq_true_eq] at h
      rw [JsNumber.lt, decide_eq_false_iff_not]
      exact Rat.not_lt.2 h
  | nan => rfl
  | negInfinity => cases h
  | infinity => rfl

section Dispatch

variable {evidence : PublicationFailureEvidence}

theorem classifyByDispatch_of_notSent (h : evidence.dispatch = .notSent) :
    classifyByDispatch evidence =
      if evidence.executionCode = some (asciiText "malformed_request") then some .terminalRejection
      else some .retryable := by
  simp only [classifyByDispatch, h]

theorem classifyByDispatch_of_unknown (h : evidence.dispatch = .unknown) :
    classifyByDispatch evidence = none := by
  simp only [classifyByDispatch, h]

/-- An answer is classed by its status. -/
theorem classifyByDispatch_of_answered {status : JsNumber} (h : evidence.Answered status) :
    classifyByDispatch evidence =
      if status = .finite 429 then some .retryable
      else if status.isAtLeast 400 = true ∧ status.lt (.finite 500) = true then
        some .terminalRejection
      else some .ambiguous := by
  simp only [classifyByDispatch, h.1, h.2, strictEq_finite_iff, Bool.and_eq_true]

theorem classifyByDispatch_of_unanswered (h : evidence.dispatch = .answered)
    (hstatus : evidence.providerStatus = none) : classifyByDispatch evidence = some .ambiguous := by
  simp only [classifyByDispatch, h, hstatus]

/-- The evidence decides on a retry only when it rules the write out. -/
theorem ruledOut_of_retryable (h : classifyByDispatch evidence = some .retryable) :
    evidence.IsUnsent ∨ evidence.IsRateLimitAnswer := by
  cases hdispatch : evidence.dispatch with
  | notSent =>
      left
      rw [classifyByDispatch_of_notSent hdispatch] at h
      refine ⟨hdispatch, fun hcode ↦ ?_⟩
      rw [if_pos hcode] at h
      cases h
  | unknown =>
      rw [classifyByDispatch_of_unknown hdispatch] at h
      cases h
  | answered =>
      cases hstatus : evidence.providerStatus with
      | none =>
          rw [classifyByDispatch_of_unanswered hdispatch hstatus] at h
          cases h
      | some status =>
          rw [classifyByDispatch_of_answered ⟨hdispatch, hstatus⟩] at h
          by_cases hlimit : status = .finite 429
          · rw [hlimit] at hstatus
            exact .inr ⟨hdispatch, hstatus⟩
          · rw [if_neg hlimit] at h
            split_ifs at h <;> cases h

/-- The evidence decides on a rejection only when it is a refusal. -/
theorem refused_of_terminal (h : classifyByDispatch evidence = some .terminalRejection) :
    evidence.IsCompileRefusal ∨ evidence.IsRefusalAnswer := by
  cases hdispatch : evidence.dispatch with
  | notSent =>
      left
      rw [classifyByDispatch_of_notSent hdispatch] at h
      by_cases hcode : evidence.executionCode = some (asciiText "malformed_request")
      · exact ⟨hdispatch, hcode⟩
      · rw [if_neg hcode] at h
        cases h
  | unknown =>
      rw [classifyByDispatch_of_unknown hdispatch] at h
      cases h
  | answered =>
      cases hstatus : evidence.providerStatus with
      | none =>
          rw [classifyByDispatch_of_unanswered hdispatch hstatus] at h
          cases h
      | some status =>
          rw [classifyByDispatch_of_answered ⟨hdispatch, hstatus⟩] at h
          by_cases hlimit : status = .finite 429
          · rw [if_pos hlimit] at h
            cases h
          · by_cases hclient : status.isAtLeast 400 = true ∧ status.lt (.finite 500) = true
            · exact .inr ⟨status, ⟨hdispatch, hstatus⟩, hlimit, hclient⟩
            · rw [if_neg hlimit, if_neg hclient] at h
              cases h

theorem classifyByDispatch_of_isRateLimitAnswer (h : evidence.IsRateLimitAnswer) :
    classifyByDispatch evidence = some .retryable := by
  rw [classifyByDispatch_of_answered h, if_pos rfl]

/-- An answer of 5xx decides nothing. -/
theorem classifyByDispatch_of_isServerAnswer (h : evidence.IsServerAnswer) :
    classifyByDispatch evidence = some .ambiguous := by
  obtain ⟨hdispatch, status, hstatus, hleast, -⟩ := h
  have hclient := lt_of_isAtLeast hleast
  have hlimit : status ≠ .finite 429 := by
    rintro rfl
    exact absurd hleast (by decide)
  rw [classifyByDispatch_of_answered ⟨hdispatch, hstatus⟩, if_neg hlimit, if_neg]
  rw [hclient]
  exact fun h ↦ absurd h.2 (by decide)

end Dispatch

/-! ## The class of each shape -/

section Shapes

variable {err : Thrown}

/-- The checks that a shape passed and failed. -/
theorem shapeOf_cases (err : Thrown) :
    (isAbortError err = true ∧ shapeOf err = .abort) ∨
      (isAbortError err = false ∧
        ((∃ kind, isGbpApiErrorShape err = some kind ∧ shapeOf err = .gateway kind) ∨
          (isGbpApiErrorShape err = none ∧
            ((∃ code, isReviewApiErrorShape err = some code ∧ shapeOf err = .review code) ∨
              (isReviewApiErrorShape err = none ∧
                ((∃ code, isIntegrationErrorShape err = some code ∧
                  shapeOf err = .integration code) ∨
                  (isIntegrationErrorShape err = none ∧ shapeOf err = .unrecognised))))))) := by
  cases habort : isAbortError err with
  | true => simp [shapeOf, habort]
  | false =>
      cases hkind : isGbpApiErrorShape err with
      | some kind => simp [shapeOf, habort, hkind]
      | none =>
          cases hreview : isReviewApiErrorShape err with
          | some code => simp [shapeOf, habort, hkind, hreview]
          | none =>
              cases hcode : isIntegrationErrorShape err <;>
                simp [shapeOf, habort, hkind, hreview, hcode]

theorem classify_of_abort (h : isAbortError err = true) :
    classifyPublicationFailure err = .ambiguous := by
  rw [classifyPublicationFailure, if_pos h]

/-- The class of an error of the gateway or of the review port: a refusal, or what the evidence
decides, or the rate limit. -/
theorem classify_of_recordsDispatch (h : (shapeOf err).recordsDispatch = true) :
    classifyPublicationFailure err =
      if (shapeOf err).isRefusal then .terminalRejection
      else (classifyByDispatch (recorded err)).getD
        (if (shapeOf err).isRateLimit then .retryable else .ambiguous) := by
  rcases shapeOf_cases err with ⟨-, hshape⟩ | ⟨habort, ⟨kind, hkind, hshape⟩ |
    ⟨hkind, ⟨code, hcode, hshape⟩ | ⟨-, ⟨code, -, hshape⟩ | ⟨-, hshape⟩⟩⟩⟩
  · rw [hshape] at h
    cases h
  · rw [recorded]
    simp only [hshape, classifyPublicationFailure, habort, hkind, classifyGatewayError,
      FailureShape.isRefusal, FailureShape.isRateLimit]
    cases classifyByDispatch (publicationFailureEvidence err) <;> simp
  · rw [recorded]
    simp only [hshape, classifyPublicationFailure, habort, hkind, hcode, classifyReviewApiError,
      FailureShape.isRefusal, FailureShape.isRateLimit]
    cases classifyByDispatch (publicationFailureEvidence err) <;> simp
  · rw [hshape] at h
    cases h
  · rw [hshape] at h
    cases h

theorem classifyGbpApiError_eq (context : Thrown) : classifyGbpApiError context =
    match (context.fieldOf (asciiText "status")).asNumber with
    | none => .ambiguous
    | some status =>
        if status.isAtLeast 400 && status.lt (.finite 500) then .terminalRejection
        else .ambiguous := by
  rw [classifyGbpApiError]
  cases (context.fieldOf (asciiText "status")).asNumber with
  | none => rfl
  | some status => simp

/-- The class of an integration error: its code's, or by the status of a provider error. -/
theorem classify_of_integration {code : Text} (h : shapeOf err = .integration code) :
    classifyPublicationFailure err =
      if (shapeOf err).isRateLimit || (shapeOf err).isTokenRefresh then .retryable
      else if (shapeOf err).isRefusal then .terminalRejection
      else if code = asciiText "gbp_api_error" then
        match (recorded err).providerStatus with
        | none => .ambiguous
        | some status =>
            if status.isAtLeast 400 && status.lt (.finite 500) then .terminalRejection
            else .ambiguous
      else .ambiguous := by
  rcases shapeOf_cases err with ⟨-, hshape⟩ | ⟨habort, ⟨kind, hkind, hshape⟩ |
    ⟨hkind, ⟨code, hcode, hshape⟩ | ⟨hreview, ⟨code', hcode, hshape⟩ | ⟨-, hshape⟩⟩⟩⟩
  · rw [hshape] at h
    cases h
  · rw [hshape] at h
    cases h
  · rw [hshape] at h
    cases h
  · rw [hshape] at h
    cases h
    rw [recorded]
    simp only [hshape, classifyPublicationFailure, habort, hkind, hreview, hcode,
      classifyGbpApiError_eq, FailureShape.isRefusal, FailureShape.isRateLimit,
      FailureShape.isTokenRefresh]
    by_cases hlimit : code = asciiText "gbp_api_rate_limited"
    · simp [hlimit]
    by_cases htoken : code = asciiText "token_refresh_failed"
    · subst htoken
      rw [if_neg Bool.false_ne_true, if_neg (by decide), if_neg (by decide), if_pos rfl,
        if_pos (by decide)]
    by_cases herror : code = asciiText "gbp_api_error"
    · subst herror
      rw [if_neg Bool.false_ne_true, if_neg (by decide), if_pos rfl, if_neg (by decide),
        if_neg (by decide), if_pos rfl]
    · simp [hlimit, htoken, herror]
  · rw [hshape] at h
    cases h

theorem classify_of_unrecognised (h : shapeOf err = .unrecognised) :
    classifyPublicationFailure err = .ambiguous := by
  rcases shapeOf_cases err with ⟨-, hshape⟩ | ⟨habort, ⟨kind, hkind, hshape⟩ |
    ⟨hkind, ⟨code, hcode, hshape⟩ | ⟨hreview, ⟨code, hcode, hshape⟩ | ⟨hcode, -⟩⟩⟩⟩
  · rw [hshape] at h
    cases h
  · rw [hshape] at h
    cases h
  · rw [hshape] at h
    cases h
  · rw [hshape] at h
    cases h
  · simp only [classifyPublicationFailure, habort, hkind, hreview, hcode]
    rfl

end Shapes

/-! ## What the classes say -/

/-- An integration error that has a 429 in its context and no other code for it. -/
def IsUnreadRateLimit (err : Thrown) : Prop :=
  (shapeOf err).isIntegration = true ∧ (shapeOf err).isPlain = true ∧
    (recorded err).IsRateLimitAnswer

/-- Two thrown values whose evidence is to decide, of answers alike: both 429 or both 5xx. -/
def SameAnswer (err other : Thrown) : Prop :=
  (shapeOf err).isPlain = true ∧ (shapeOf other).isPlain = true ∧
    (((recorded err).IsRateLimitAnswer ∧ (recorded other).IsRateLimitAnswer) ∨
      ((recorded err).IsServerAnswer ∧ (recorded other).IsServerAnswer))

/-- The class of a thrown value follows what Google may have done. -/
structure FollowsEvidence (err : Thrown) : Prop where
  retryable : classifyPublicationFailure err = .retryable → (recorded err).IsUnsent ∨
    (recorded err).IsRateLimitAnswer ∨ (shapeOf err).isRateLimit = true ∨
      (shapeOf err).isTokenRefresh = true
  terminal : classifyPublicationFailure err = .terminalRejection → (shapeOf err).isRefusal = true ∨
    (recorded err).IsCompileRefusal ∨ (recorded err).IsRefusalAnswer
  abort : isAbortError err = true → classifyPublicationFailure err = .ambiguous
  ambiguous : (shapeOf err).isPlain = true →
    ((recorded err).HasServerError ∧ (recorded err).dispatch ≠ .notSent) ∨ (recorded err).IsBlank ∨
      shapeOf err = .unrecognised → classifyPublicationFailure err = .ambiguous
  alike : ∀ other, (shapeOf other).recordsDispatch = true → SameAnswer err other →
    classifyPublicationFailure err = classifyPublicationFailure other

section Follows

variable {err : Thrown}

/-- With a plain code the evidence decides alone. -/
theorem classify_of_isPlain (h : (shapeOf err).recordsDispatch = true)
    (hplain : (shapeOf err).isPlain = true) :
    classifyPublicationFailure err = (classifyByDispatch (recorded err)).getD .ambiguous := by
  simp only [FailureShape.isPlain, Bool.and_eq_true, Bool.not_eq_true'] at hplain
  rw [classify_of_recordsDispatch h, hplain.1.1, hplain.1.2, if_neg Bool.false_ne_true,
    if_neg Bool.false_ne_true]

/-- The class of an answer 429. -/
theorem classify_of_isRateLimitAnswer (h : (shapeOf err).recordsDispatch = true)
    (hplain : (shapeOf err).isPlain = true) (hanswer : (recorded err).IsRateLimitAnswer) :
    classifyPublicationFailure err = .retryable := by
  rw [classify_of_isPlain h hplain, classifyByDispatch_of_isRateLimitAnswer hanswer,
    Option.getD_some]

theorem shape_cases (err : Thrown) : shapeOf err = .abort ∨ (shapeOf err).recordsDispatch = true ∨
    (∃ code, shapeOf err = .integration code) ∨ shapeOf err = .unrecognised := by
  cases shapeOf err with
  | abort => exact .inl rfl
  | gateway kind => exact .inr (.inl rfl)
  | review code => exact .inr (.inl rfl)
  | integration code => exact .inr (.inr (.inl ⟨code, rfl⟩))
  | unrecognised => exact .inr (.inr (.inr rfl))

theorem isBlank_or_of_abort (h : shapeOf err = .abort ∨ shapeOf err = .unrecognised) :
    recorded err = noEvidence := by
  rw [recorded]
  rcases h with h | h <;> rw [h]

/-- An answer is recorded in one of the three shapes. -/
theorem shape_of_answered (h : (recorded err).dispatch = .answered) :
    (shapeOf err).recordsDispatch = true ∨ ∃ code, shapeOf err = .integration code := by
  rcases shape_cases err with habort | hrecords | hcode | hnone
  · rw [isBlank_or_of_abort (.inl habort)] at h
    cases h
  · exact .inl hrecords
  · exact .inr hcode
  · rw [isBlank_or_of_abort (.inr hnone)] at h
    cases h

theorem abort_of_shape (h : shapeOf err = .abort) : isAbortError err = true := by
  rcases shapeOf_cases err with ⟨habort, -⟩ | ⟨-, ⟨_, -, hshape⟩ | ⟨-, ⟨_, -, hshape⟩ |
    ⟨-, ⟨_, -, hshape⟩ | ⟨-, hshape⟩⟩⟩⟩
  · exact habort
  all_goals
    rw [hshape] at h
    cases h

/-- The class of a server's failure, unless nothing was sent. -/
theorem classify_of_hasServerError (hplain : (shapeOf err).isPlain = true)
    (hserver : (recorded err).HasServerError) (hsent : (recorded err).dispatch ≠ .notSent) :
    classifyPublicationFailure err = .ambiguous := by
  rcases shape_cases err with habort | hrecords | ⟨code, hcode⟩ | hnone
  · exact classify_of_abort (abort_of_shape habort)
  · rw [classify_of_isPlain hrecords hplain]
    cases hdispatch : (recorded err).dispatch with
    | notSent => exact absurd hdispatch hsent
    | answered => rw [classifyByDispatch_of_isServerAnswer ⟨hdispatch, hserver⟩, Option.getD_some]
    | unknown => rw [classifyByDispatch_of_unknown hdispatch, Option.getD_none]
  · obtain ⟨status, hstatus, hleast, -⟩ := hserver
    simp only [FailureShape.isPlain, Bool.and_eq_true, Bool.not_eq_true'] at hplain
    rw [classify_of_integration hcode, hplain.1.1, hplain.1.2, hplain.2]
    simp [hstatus, lt_of_isAtLeast hleast]
  · exact classify_of_unrecognised hnone

theorem classify_of_isServerAnswer (hplain : (shapeOf err).isPlain = true)
    (h : (recorded err).IsServerAnswer) : classifyPublicationFailure err = .ambiguous :=
  classify_of_hasServerError hplain h.2 (by rw [h.1]; decide)

/-- A status in an integration error's context is an answer's. -/
theorem answered_of_integration {code : Text} {status : JsNumber}
    (hcode : shapeOf err = .integration code)
    (h : (recorded err).providerStatus = some status) : (recorded err).dispatch = .answered := by
  rw [recorded, hcode] at h ⊢
  dsimp only at h ⊢
  rw [h, Option.isSome_some, if_pos rfl]

/-- The class where nothing is recorded. -/
theorem classify_of_isBlank (hplain : (shapeOf err).isPlain = true)
    (hblank : (recorded err).IsBlank) :
    classifyPublicationFailure err = .ambiguous := by
  rcases shape_cases err with habort | hrecords | ⟨code, hcode⟩ | hnone
  · exact classify_of_abort (abort_of_shape habort)
  · rw [classify_of_isPlain hrecords hplain, classifyByDispatch_of_unknown hblank.1,
      Option.getD_none]
  · simp only [FailureShape.isPlain, Bool.and_eq_true, Bool.not_eq_true'] at hplain
    rw [classify_of_integration hcode, hplain.1.1, hplain.1.2, hplain.2, hblank.2]
    simp
  · exact classify_of_unrecognised hnone

/-- An integration error is retried by its code, and rejected by its code or its status. -/
theorem integration_spec {code : Text} (hcode : shapeOf err = .integration code) :
    (classifyPublicationFailure err = .retryable →
        (shapeOf err).isRateLimit = true ∨ (shapeOf err).isTokenRefresh = true) ∧
      (classifyPublicationFailure err = .terminalRejection → (shapeOf err).isRefusal = true ∨
        ((shapeOf err).isPlain = true ∧ ∃ status, (recorded err).Answered status ∧
          status.isAtLeast 400 = true ∧ status.lt (.finite 500) = true)) := by
  have hclass := classify_of_integration hcode
  cases hlimit : (shapeOf err).isRateLimit || (shapeOf err).isTokenRefresh with
  | true =>
      rw [hlimit, if_pos rfl] at hclass
      rw [hclass]
      exact ⟨fun _ ↦ Bool.or_eq_true_iff.1 hlimit, fun h ↦ absurd h (by decide)⟩
  | false =>
      rw [hlimit, if_neg Bool.false_ne_true] at hclass
      cases hrefusal : (shapeOf err).isRefusal with
      | true =>
          rw [hrefusal, if_pos rfl] at hclass
          rw [hclass]
          exact ⟨fun h ↦ absurd h (by decide), fun _ ↦ .inl rfl⟩
      | false =>
          rw [hrefusal, if_neg Bool.false_ne_true] at hclass
          have hplain : (shapeOf err).isPlain = true := by
            rw [Bool.or_eq_false_iff] at hlimit
            rw [FailureShape.isPlain, hrefusal, hlimit.1, hlimit.2]
            rfl
          by_cases herror : code = asciiText "gbp_api_error"
          · rw [if_pos herror] at hclass
            cases hstatus : (recorded err).providerStatus with
            | none =>
                rw [hstatus] at hclass
                rw [hclass]
                exact ⟨fun h ↦ absurd h (by decide), fun h ↦ absurd h (by decide)⟩
            | some status =>
                rw [hstatus] at hclass
                dsimp only at hclass
                by_cases hclient : (status.isAtLeast 400 && status.lt (.finite 500)) = true
                · rw [if_pos hclient] at hclass
                  rw [hclass]
                  rw [Bool.and_eq_true] at hclient
                  exact ⟨fun h ↦ absurd h (by decide), fun _ ↦ .inr ⟨hplain, status,
                    ⟨answered_of_integration hcode hstatus, hstatus⟩, hclient⟩⟩
                · rw [if_neg hclient] at hclass
                  rw [hclass]
                  exact ⟨fun h ↦ absurd h (by decide), fun h ↦ absurd h (by decide)⟩
          · rw [if_neg herror] at hclass
            rw [hclass]
            exact ⟨fun h ↦ absurd h (by decide), fun h ↦ absurd h (by decide)⟩

/-- An answer 429 that is read as one is retried. -/
theorem retryable_of_isRateLimitAnswer (h : ¬IsUnreadRateLimit err)
    (hplain : (shapeOf err).isPlain = true) (hanswer : (recorded err).IsRateLimitAnswer) :
    classifyPublicationFailure err = .retryable := by
  rcases shape_of_answered hanswer.1 with hrecords | ⟨code, hcode⟩
  · exact classify_of_isRateLimitAnswer hrecords hplain hanswer
  · exact absurd ⟨by rw [hcode]; rfl, hplain, hanswer⟩ h

/-- The class follows the evidence of every thrown value but an unread 429. -/
theorem followsEvidence_of_not_isUnreadRateLimit (h : ¬IsUnreadRateLimit err) :
    FollowsEvidence err where
  retryable hclass := by
    rcases shape_cases err with habort | hrecords | ⟨code, hcode⟩ | hnone
    · rw [classify_of_abort (abort_of_shape habort)] at hclass
      cases hclass
    · rw [classify_of_recordsDispatch hrecords] at hclass
      split_ifs at hclass with hrefusal hlimit
      · exact .inr (.inr (.inl hlimit))
      · cases hby : classifyByDispatch (recorded err) with
        | none =>
            rw [hby] at hclass
            cases hclass
        | some byDispatch =>
            rw [hby, Option.getD_some] at hclass
            rw [hclass] at hby
            exact (ruledOut_of_retryable hby).imp_right .inl
    · exact .inr (.inr ((integration_spec hcode).1 hclass))
    · rw [classify_of_unrecognised hnone] at hclass
      cases hclass
  terminal hclass := by
    rcases shape_cases err with habort | hrecords | ⟨code, hcode⟩ | hnone
    · rw [classify_of_abort (abort_of_shape habort)] at hclass
      cases hclass
    · by_cases hrefusal : (shapeOf err).isRefusal = true
      · exact .inl hrefusal
      · right
        rw [classify_of_recordsDispatch hrecords, if_neg hrefusal] at hclass
        cases hby : classifyByDispatch (recorded err) with
        | none =>
            rw [hby, Option.getD_none] at hclass
            split_ifs at hclass
        | some byDispatch =>
            rw [hby, Option.getD_some] at hclass
            rw [hclass] at hby
            exact refused_of_terminal hby
    · rcases (integration_spec hcode).2 hclass with hrefusal | ⟨hplain, status, hanswer, hclient⟩
      · exact .inl hrefusal
      · refine .inr (.inr ⟨status, hanswer, ?_, hclient⟩)
        rintro rfl
        exact h ⟨by rw [hcode]; rfl, hplain, hanswer⟩
    · rw [classify_of_unrecognised hnone] at hclass
      cases hclass
  abort := classify_of_abort
  ambiguous hplain hevidence := by
    rcases hevidence with ⟨hserver, hsent⟩ | hblank | hnone
    · exact classify_of_hasServerError hplain hserver hsent
    · exact classify_of_isBlank hplain hblank
    · exact classify_of_unrecognised hnone
  alike other hrecords hsame := by
    obtain ⟨hplain, hplain', hlimits | hservers⟩ := hsame
    · rw [classify_of_isRateLimitAnswer hrecords hplain' hlimits.2,
        retryable_of_isRateLimitAnswer h hplain hlimits.1]
    · rw [classify_of_isServerAnswer hplain hservers.1,
        classify_of_isServerAnswer hplain' hservers.2]

/-- The gateway's record of an answer 429. -/
def gatewayRateLimit : Thrown := .object fun key ↦
  if key = asciiText "_tag" then some (.text (asciiText "GbpApiError"))
  else if key = asciiText "kind" then some (.text (asciiText "upstream_error"))
  else if key = asciiText "dispatch" then some (.text (asciiText "answered"))
  else if key = asciiText "providerStatus" then some (.number (.finite 429))
  else none

theorem gatewayRateLimit_spec : shapeOf gatewayRateLimit = .gateway .upstreamError ∧
    (recorded gatewayRateLimit).IsRateLimitAnswer := by
  refine ⟨by decide, ?_⟩
  rw [PublicationFailureEvidence.IsRateLimitAnswer, PublicationFailureEvidence.Answered]
  decide

/-- An unread 429 is not retried. -/
theorem not_retryable_of_isUnreadRateLimit (h : IsUnreadRateLimit err) :
    classifyPublicationFailure err ≠ .retryable := by
  obtain ⟨hintegration, hplain, -⟩ := h
  intro hclass
  cases hshape : shapeOf err with
  | integration code =>
      simp only [FailureShape.isPlain, Bool.and_eq_true, Bool.not_eq_true'] at hplain
      rcases (integration_spec hshape).1 hclass with hlimit | htoken
      · rw [hplain.1.2] at hlimit
        cases hlimit
      · rw [hplain.2] at htoken
        cases htoken
  | abort | gateway | review | unrecognised =>
      rw [hshape] at hintegration
      cases hintegration

theorem not_followsEvidence (hunread : IsUnreadRateLimit err) : ¬FollowsEvidence err := by
  intro h
  obtain ⟨hshape, hanswer⟩ := gatewayRateLimit_spec
  have hrecords : (shapeOf gatewayRateLimit).recordsDispatch = true := by rw [hshape]; rfl
  have hplain : (shapeOf gatewayRateLimit).isPlain = true := by rw [hshape]; rfl
  have hsame := h.alike _ hrecords ⟨hunread.2.1, hplain, .inl ⟨hunread.2.2, hanswer⟩⟩
  rw [classify_of_isRateLimitAnswer hrecords hplain hanswer] at hsame
  exact not_retryable_of_isUnreadRateLimit hunread hsame

end Follows

/-- Publication failures are classed by what Google may have done, for all but the integration
errors that have a 429 in their context and no other code for it: these are not retried, as an
answer 429 is in the other shapes. -/
theorem publication_failures_follow_evidence (err : Thrown) :
    (FollowsEvidence err ↔ ¬IsUnreadRateLimit err) ∧
      ∀ other : Thrown, ¬IsUnreadRateLimit err → ¬IsUnreadRateLimit other → SameAnswer err other →
        classifyPublicationFailure err = classifyPublicationFailure other := by
  constructor
  · exact ⟨fun h hunread ↦ not_followsEvidence hunread h, followsEvidence_of_not_isUnreadRateLimit⟩
  · rintro other h h' ⟨hplain, hplain', hlimits | hservers⟩
    · rw [retryable_of_isRateLimitAnswer h hplain hlimits.1,
        retryable_of_isRateLimitAnswer h' hplain' hlimits.2]
    · rw [classify_of_isServerAnswer hplain hservers.1,
        classify_of_isServerAnswer hplain' hservers.2]

/-- A provider error of the integration context that was answered 429. -/
def integrationRateLimit : Thrown := .object fun key ↦
  if key = asciiText "_tag" then some (.text (asciiText "IntegrationError"))
  else if key = asciiText "code" then some (.text (asciiText "gbp_api_error"))
  else if key = asciiText "context" then some (.object fun key ↦
    if key = asciiText "status" then some (.number (.finite 429)) else none)
  else none

/-- It is rejected, while the gateway's record of the same answer is retried. -/
theorem integration_rate_limit_is_rejected :
    classifyPublicationFailure integrationRateLimit = .terminalRejection ∧
      classifyPublicationFailure gatewayRateLimit = .retryable ∧
      (shapeOf integrationRateLimit).isPlain = true ∧
      recorded integrationRateLimit = ⟨none, .answered, some (.finite 429)⟩ ∧
      ¬FollowsEvidence integrationRateLimit := by
  have hunread : IsUnreadRateLimit integrationRateLimit := by
    refine ⟨by decide, by decide, ?_⟩
    rw [PublicationFailureEvidence.IsRateLimitAnswer, PublicationFailureEvidence.Answered]
    decide
  exact ⟨by decide, by decide, hunread.2.1, by decide, not_followsEvidence hunread⟩

end ReputationKey.Review
