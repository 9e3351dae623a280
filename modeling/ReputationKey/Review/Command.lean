import ReputationKey.Review.Workflow

/-!
# Reply commands and what each may start from

The internal reply row, the manager commands with their start conditions, the cancellation that
returns a reply to draft, and what a guest edit takes back. Follows
`src/src/contexts/review/domain/reply-command-preconditions.ts` and the AI text rules of
`src/src/contexts/review/domain/reply-ai-text.ts:48–90`.
-/

namespace ReputationKey.Review

/-- The internal reply row of one review. The origin columns of an AI suggestion are one
operation identifier. Follows `src/src/contexts/review/domain/types.ts`. -/
structure Reply where
  id : Nat
  text : Text
  status : ReplyStatus
  aiGenerated : Bool
  originOperationId : Option Nat
  stateRevision : Nat
  publicationState : PublicationStateInput
  publicationCycle : Nat
  publicationAttempts : Nat
  publicationLastErrorClass : Option PublicationFailureClass
  reconcileDueAt : Option Int
  deriving DecidableEq, Repr

/-- The commands with a stated start. Follows
`src/src/contexts/review/domain/reply-command-preconditions.ts:24–38`. -/
inductive ReplyCommand
  | saveDraft
  | submit
  | approve
  | reject
  | retryPublication
  | editPublished
  | delete
  | confirmPublished
  deriving DecidableEq, Repr

/-- The statuses and publication states one command accepts. -/
structure ReplyCommandStart where
  statuses : List ReplyStatus
  publicationStates : List PublicationStateInput
  deriving DecidableEq, Repr

/-- No publication cycle is open: none was ever authorized, or the last one was cancelled. -/
def noOpenPublication : List PublicationStateInput := [none, some .cancelled]

/-- A cycle whose write may have reached Google, or did and was not confirmed. -/
def unconfirmedPublication : List PublicationStateInput :=
  [some .sending, some .pendingObservation, some .ambiguous, some .terminal]

/-- The start of each command. Follows
`src/src/contexts/review/domain/reply-command-preconditions.ts:61–77`. -/
def replyCommandStarts : ReplyCommand → ReplyCommandStart
  | .saveDraft => ⟨[.draft, .rejected], noOpenPublication⟩
  | .submit => ⟨[.draft], noOpenPublication⟩
  | .approve => ⟨[.pendingApproval], noOpenPublication⟩
  | .reject => ⟨[.pendingApproval], noOpenPublication⟩
  | .retryPublication => ⟨[.publishFailed], [some .terminal]⟩
  | .editPublished => ⟨[.published], [some .published, none]⟩
  | .delete => ⟨[.draft, .rejected], [none]⟩
  | .confirmPublished => ⟨[.approved, .publishFailed], unconfirmedPublication⟩

/-- Terminal ambiguity: the automatic checks ended without learning what Google has. -/
def endedWithoutAnAnswer (reply : Reply) : Bool :=
  reply.publicationState == some .terminal && reply.publicationLastErrorClass == some .ambiguous

/-- Whether the reply was ever authorized for publication. -/
def hasPublicationRecord (reply : Reply) : Bool :=
  decide (0 < reply.publicationCycle) || reply.publicationState.isSome

/-- Whether the reply is in the status and publication state the command names. -/
def isAtCommandStart (command : ReplyCommand) (reply : Reply) : Bool :=
  (replyCommandStarts command).statuses.contains reply.status &&
    (replyCommandStarts command).publicationStates.contains reply.publicationState

/-- Whether the command may start from this reply. Follows
`src/src/contexts/review/domain/reply-command-preconditions.ts:98–106`. -/
def replyCommandMayStart (command : ReplyCommand) (reply : Reply) : Bool :=
  isAtCommandStart command reply &&
    match command with
    | .retryPublication => !endedWithoutAnAnswer reply
    | .delete => !hasPublicationRecord reply
    | _ => true

/-- The refusal of each command in its own words. Follows
`src/src/contexts/review/domain/reply-command-preconditions.ts:117–126`. -/
def replyCommandRefusals : ReplyCommand → String
  | .saveDraft => "Only a draft or a rejected reply can be edited"
  | .submit => "Only a draft can be submitted for approval"
  | .approve => "Only a reply that is waiting for approval can be confirmed and published"
  | .reject => "Only a reply that is waiting for approval can be rejected"
  | .retryPublication => "Only a reply that failed to publish can be sent again"
  | .editPublished => "Only a published reply can be edited and republished"
  | .delete => "Can only delete draft or rejected replies"
  | .confirmPublished => "Only a reply sent to Google can be recorded as published"

/-- The refusal of a deletion the publication record forbids. -/
def replyKeptWithItsRecord : String :=
  "This reply was confirmed for publishing before, so RepKey keeps it with its publication " ++
    "record. Edit it and submit it again, or leave it as a draft."

/-- Refuse, in the command's own words, a reply it may not start from. Follows
`src/src/contexts/review/domain/reply-command-preconditions.ts:129–144`. -/
def assertReplyCommandMayStart (command : ReplyCommand) (reply : Reply) :
    Except ReviewError Unit :=
  if replyCommandMayStart command reply then
    .ok ()
  else if command = .delete ∧ (replyCommandStarts .delete).statuses.contains reply.status ∧
      hasPublicationRecord reply then
    .error ⟨.invalidTransition, replyKeptWithItsRecord⟩
  else
    .error ⟨.invalidTransition, replyCommandRefusals command⟩

/-- The use case refuses in words exactly the replies the store's guard refuses. -/
theorem assertReplyCommandMayStart_eq_ok (command : ReplyCommand) (reply : Reply) :
    assertReplyCommandMayStart command reply = .ok () ↔ replyCommandMayStart command reply := by
  unfold assertReplyCommandMayStart
  split
  · next h => simp [h]
  · next h =>
      split
      · simp [h]
      · simp [h]

/-- What a cancelled publication leaves of a reply: a draft with no error class and no due time.
Follows `src/src/contexts/review/domain/reply-command-preconditions.ts:166–178`. -/
def cancelledPublication (reply : Reply) : Option (Reply → Reply) :=
  match nextPublicationState reply.publicationState .cancel with
  | some .cancelled => some fun row =>
      { row with
        status := .draft
        publicationState := some .cancelled
        publicationLastErrorClass := none
        reconcileDueAt := none }
  | _ => none

/-- What a guest edit leaves of a reply it takes back. -/
structure TakenBackByGuestEdit where
  status : ReplyStatus
  publicationState : PublicationStateInput
  supersedesAttempt : Bool
  deriving DecidableEq, Repr

/-- What a guest edit does to a reply a manager wrote and put forward. Follows
`src/src/contexts/review/domain/reply-command-preconditions.ts:216–236`. -/
def takenBackByGuestEdit (reply : Reply) : Option TakenBackByGuestEdit :=
  if reply.aiGenerated then
    none
  else if replyCommandMayStart .approve reply then
    some ⟨.draft, if reply.publicationState = none then none else some .cancelled, false⟩
  else if !isAtCommandStart .retryPublication reply then
    none
  else
    some ⟨.draft, some .cancelled, endedWithoutAnAnswer reply⟩

/-- What a reply command does with unedited AI text. Follows
`src/src/contexts/review/domain/reply-ai-text.ts:50–56`. -/
inductive AiTextRule
  | needsCurrentBinding
  | endsAdoption
  | unaffected
  deriving DecidableEq, Repr

/-- The AI text rule of each command. Follows
`src/src/contexts/review/domain/reply-ai-text.ts:58–87`. -/
def aiTextRuleOf : ReplyCommand → AiTextRule
  | .saveDraft => .endsAdoption
  | .submit => .needsCurrentBinding
  | .approve => .needsCurrentBinding
  | .reject => .unaffected
  | .retryPublication => .unaffected
  | .editPublished => .endsAdoption
  | .delete => .unaffected
  | .confirmPublished => .unaffected

/-- An approval starts only from a reply waiting for it, outside every cycle. -/
theorem replyCommandMayStart_approve {reply : Reply} (h : replyCommandMayStart .approve reply) :
    reply.status = .pendingApproval ∧
      (reply.publicationState = none ∨ reply.publicationState = some .cancelled) := by
  simpa [replyCommandMayStart, isAtCommandStart, replyCommandStarts, noOpenPublication]
    using h

/-- A retry starts only from a failure whose cycle ended with an answer. -/
theorem replyCommandMayStart_retry {reply : Reply}
    (h : replyCommandMayStart .retryPublication reply) :
    reply.status = .publishFailed ∧ reply.publicationState = some .terminal ∧
      reply.publicationLastErrorClass ≠ some .ambiguous := by
  simp [replyCommandMayStart, isAtCommandStart, replyCommandStarts, endedWithoutAnAnswer] at h
  obtain ⟨⟨hstatus, hstate⟩, hanswer⟩ := h
  refine ⟨hstatus, hstate, fun hclass ↦ ?_⟩
  rcases hanswer with hne | hne
  · exact hne hstate
  · exact hne hclass

/-- An edit starts only from a published reply. -/
theorem replyCommandMayStart_edit {reply : Reply}
    (h : replyCommandMayStart .editPublished reply) :
    reply.status = .published ∧
      (reply.publicationState = some .published ∨ reply.publicationState = none) := by
  simpa [replyCommandMayStart, isAtCommandStart, replyCommandStarts] using h

/-- A draft save starts only from an unsubmitted reply outside every cycle. -/
theorem replyCommandMayStart_saveDraft {reply : Reply}
    (h : replyCommandMayStart .saveDraft reply) :
    (reply.status = .draft ∨ reply.status = .rejected) ∧
      (reply.publicationState = none ∨ reply.publicationState = some .cancelled) := by
  simpa [replyCommandMayStart, isAtCommandStart, replyCommandStarts, noOpenPublication]
    using h

/-- A submission starts only from a draft outside every cycle. -/
theorem replyCommandMayStart_submit {reply : Reply}
    (h : replyCommandMayStart .submit reply) :
    reply.status = .draft ∧
      (reply.publicationState = none ∨ reply.publicationState = some .cancelled) := by
  simpa [replyCommandMayStart, isAtCommandStart, replyCommandStarts, noOpenPublication]
    using h

/-- A rejection starts where an approval does. -/
theorem replyCommandMayStart_reject {reply : Reply}
    (h : replyCommandMayStart .reject reply) :
    reply.status = .pendingApproval ∧
      (reply.publicationState = none ∨ reply.publicationState = some .cancelled) := by
  simpa [replyCommandMayStart, isAtCommandStart, replyCommandStarts, noOpenPublication]
    using h

end ReputationKey.Review
