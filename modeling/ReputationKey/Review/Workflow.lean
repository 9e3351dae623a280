import Mathlib.Algebra.Order.Ring.Int
import Mathlib.Algebra.Order.Ring.Nat
import Mathlib.Tactic.Common

/-!
# Reply publication workflow

The reply status, the persisted publication state with its transition table, and the errors the
reply stores raise. Follows `src/src/contexts/review/domain/reply-publication-workflow.ts:21–153`,
the status of `src/src/contexts/review/domain/types.ts` and the error codes of
`src/src/contexts/review/domain/errors.ts`.
-/

namespace ReputationKey.Review

/-- Reply text as the program holds it: a sequence of UTF-16 code units. -/
abbrev Text := List UInt16

/-- A hexadecimal digest of reply text. -/
abbrev Digest := String

/-- The error codes the modelled stores and rules throw. Follows
`src/src/contexts/review/domain/errors.ts:6–27`. -/
inductive ReviewErrorCode
  | invalidInput
  | invalidTransition
  | replyNotFound
  | reviewNotFound
  | repoUpsertFailed
  deriving DecidableEq, Repr

/-- A thrown review error. Its transaction rolls back, so it leaves every row as it was. -/
structure ReviewError where
  code : ReviewErrorCode
  message : String
  deriving DecidableEq, Repr

/-- The local lifecycle of a reply. Follows `src/src/contexts/review/domain/types.ts`. -/
inductive ReplyStatus
  | draft
  | pendingApproval
  | approved
  | published
  | rejected
  | publishFailed
  deriving DecidableEq, Repr

/-- What a failed provider write says about Google. Follows
`src/src/contexts/review/domain/reply-publication-workflow.ts:57`. -/
inductive PublicationFailureClass
  | terminalRejection
  | retryable
  | ambiguous
  deriving DecidableEq, Repr

/-- The provider interaction of a reply; a reply with none has no state. Follows
`src/src/contexts/review/domain/reply-publication-workflow.ts:62–70`. -/
inductive PersistedPublicationState
  | requested
  | authorized
  | sending
  | pendingObservation
  | published
  | terminal
  | ambiguous
  | cancelled
  deriving DecidableEq, Repr

/-- The current persisted state; `none` means no publication workflow is active. -/
abbrev PublicationStateInput := Option PersistedPublicationState

/-- The events of the persisted-state table. Follows
`src/src/contexts/review/domain/reply-publication-workflow.ts:76–84`. -/
inductive PublicationStateEvent
  | authorize
  | claim
  | providerAccepted
  | publish
  | failTerminal
  | failAmbiguous
  | requeue
  | cancel
  deriving DecidableEq, Repr

/-- The persisted transition table; an absent entry is no move. Follows
`src/src/contexts/review/domain/reply-publication-workflow.ts:88–127`. -/
def persistedPublicationTransitions :
    PersistedPublicationState → PublicationStateEvent → Option PersistedPublicationState
  | .requested, .authorize => some .authorized
  | .requested, .failTerminal => some .terminal
  | .requested, .cancel => some .cancelled
  | .authorized, .claim => some .sending
  | .authorized, .failTerminal => some .terminal
  | .authorized, .cancel => some .cancelled
  | .sending, .providerAccepted => some .pendingObservation
  | .sending, .failTerminal => some .terminal
  | .sending, .failAmbiguous => some .ambiguous
  | .sending, .requeue => some .authorized
  | .sending, .cancel => some .cancelled
  | .pendingObservation, .publish => some .published
  | .pendingObservation, .failAmbiguous => some .ambiguous
  | .pendingObservation, .cancel => some .cancelled
  | .terminal, .authorize => some .authorized
  | .terminal, .publish => some .published
  | .ambiguous, .publish => some .published
  | .ambiguous, .failTerminal => some .terminal
  | .cancelled, .authorize => some .authorized
  | _, _ => none

/-- The next persisted state, or `none` when the event does not apply. Follows
`src/src/contexts/review/domain/reply-publication-workflow.ts:144–155`. -/
def nextPublicationState (current : PublicationStateInput) (event : PublicationStateEvent) :
    PublicationStateInput :=
  match current with
  | none =>
      match event with
      | .authorize => some .authorized
      | .publish => some .published
      | _ => none
  | some state => persistedPublicationTransitions state event

/-- A retryable failure requeues only a claimed attempt. -/
@[simp] theorem nextPublicationState_requeue (current : PublicationStateInput)
    (next : PersistedPublicationState) :
    nextPublicationState current .requeue = some next ↔
      current = some .sending ∧ next = .authorized := by
  rcases current with _ | state
  · simp [nextPublicationState]
  · cases state <;> simp [nextPublicationState, persistedPublicationTransitions, eq_comm]

/-- An accepted write waits for a provider read, from a claimed attempt only. -/
@[simp] theorem nextPublicationState_providerAccepted (current : PublicationStateInput)
    (next : PersistedPublicationState) :
    nextPublicationState current .providerAccepted = some next ↔
      current = some .sending ∧ next = .pendingObservation := by
  rcases current with _ | state
  · simp [nextPublicationState]
  · cases state <;> simp [nextPublicationState, persistedPublicationTransitions, eq_comm]

/-- Every terminal failure the table makes ends in `terminal`. -/
theorem nextPublicationState_failTerminal (current : PublicationStateInput)
    (next : PersistedPublicationState)
    (h : nextPublicationState current .failTerminal = some next) : next = .terminal := by
  rcases current with _ | state
  · simp [nextPublicationState] at h
  · cases state <;> simp_all [nextPublicationState, persistedPublicationTransitions]

/-- Every ambiguous failure the table makes ends in `ambiguous`. -/
theorem nextPublicationState_failAmbiguous (current : PublicationStateInput)
    (next : PersistedPublicationState)
    (h : nextPublicationState current .failAmbiguous = some next) : next = .ambiguous := by
  rcases current with _ | state
  · simp [nextPublicationState] at h
  · cases state <;> simp_all [nextPublicationState, persistedPublicationTransitions]

/-- The largest integer a JavaScript number holds without loss. -/
def maxSafeInteger : Nat := 2 ^ 53 - 1

/-- Advance one durable publication authorization generation, refusing an exhausted counter.
Follows `src/src/contexts/review/domain/reply-publication-workflow.ts:21–32`. -/
def nextPublicationCycle (current : Nat) : Except ReviewError Nat :=
  if maxSafeInteger ≤ current then
    .error ⟨.invalidTransition, "Reply publication cycle is invalid"⟩
  else
    .ok (current + 1)

/-- A granted cycle is the successor of the current one. -/
theorem nextPublicationCycle_eq_ok {current next : Nat}
    (h : nextPublicationCycle current = .ok next) : next = current + 1 := by
  unfold nextPublicationCycle at h
  split at h
  · cases h
  · cases h
    rfl

end ReputationKey.Review
