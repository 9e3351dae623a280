import ReputationKey.Review.CommandStore

/-!
# What a new review source does to a reply

An applied review observation cancels publication work authorized for an older source and, when it
is a guest edit, takes back the reply a manager had put forward; erased source content, an adopted
AI suggestion, a restored database and the creation and deletion of drafts are the remaining
writers of the reply row. Follows
`src/src/contexts/review/infrastructure/review-command-store.ts:60–272`,
`src/src/contexts/review/infrastructure/review-source-content-store.ts:120–250`,
`src/src/contexts/review/infrastructure/ai-suggested-draft-store.ts:355–440`,
`src/src/shared/db/recovery/postgres-recovery-fence.ts:255–273` and
`src/src/contexts/review/infrastructure/repositories/reply.repository.ts:556–617`.
-/

namespace ReputationKey.Review

/-- The publication states a changed source cancels. Follows
`src/src/contexts/review/infrastructure/review-command-store.ts:50–58`. -/
def sourceActivePublicationStates : List PersistedPublicationState :=
  [.requested, .authorized, .sending, .pendingObservation, .ambiguous]

/-- Whether the reply has publication work a changed source may cancel. -/
def isSourceActive (row : Reply) : Bool :=
  row.publicationState.any sourceActivePublicationStates.contains

/-- Whether the authorization of the reply's cycle is missing or names another source. -/
def isAuthorizedForOlderSource (s : Store) (row : Reply) : Bool :=
  match s.authorizationOf row.id row.publicationCycle with
  | none => true
  | some authorization =>
      authorization.propertyId != s.review.propertyId ||
        authorization.sourceEpoch != s.review.sourceEpoch ||
        authorization.materialReviewRevision != s.review.sourceRevision

/-- Close the reply's newest attempt as superseded, when its cycle has one. Follows
`src/src/contexts/review/infrastructure/review-command-store.ts:64–87`. -/
def supersedeCurrentAttempt (s : Store) (row : Reply) : Store :=
  if row.publicationAttempts < 1 then s
  else s.setAttempts (PublicationAttempt.isCurrentOf row) (PublicationAttempt.settle .superseded)

/-- The draft a changed source leaves of an open publication. -/
def cancelledBySource (row : Reply) : Reply :=
  { row with
    status := .draft
    publicationState := some .cancelled
    publicationLastErrorClass := none
    reconcileDueAt := none }

/-- Settle publication work whose authorization names an older source. Follows
`src/src/contexts/review/infrastructure/review-command-store.ts:98–186`. -/
def supersedeStaleReviewPublications (s : Store) : Store :=
  match s.reply with
  | none => s
  | some row =>
      if isSourceActive row && isAuthorizedForOlderSource s row then
        let superseded := supersedeCurrentAttempt s row
        let cancelled :=
          { superseded with reply := some (applyReplyTrigger row (cancelledBySource row)) }
        withdrawAiDrafts (cancelled.record (.publicationCancelled .sourceChanged))
      else
        s

/-- Take back the reply a manager had put forward. Follows
`src/src/contexts/review/infrastructure/review-command-store.ts:205–257`. -/
def takeBackReplyPutForwardBeforeGuestEdit (s : Store) : Store :=
  match s.reply with
  | none => s
  | some row =>
      match takenBackByGuestEdit row with
      | none => s
      | some takenBack =>
          let returned :=
            { s with
              reply := some (applyReplyTrigger row
                { row with
                  status := takenBack.status
                  publicationState := takenBack.publicationState
                  publicationLastErrorClass := none
                  reconcileDueAt := none }) }
          let closed :=
            if takenBack.supersedesAttempt then supersedeCurrentAttempt returned row else returned
          closed.record (.publicationCancelled .sourceChanged)

/-- One applied review observation: the source it leaves, and how it compared. -/
structure AppliedReviewObservation where
  sourceEpoch : Nat
  sourceRevision : Nat
  isGuestEdit : Bool
  aiWindowHasPassed : Bool
  deriving DecidableEq, Repr

/-- The law of the material revision: it moves by one exactly on a guest edit or into a new source
epoch. -/
def AppliedReviewObservation.Follows (observation : AppliedReviewObservation)
    (review : ReviewRow) : Prop :=
  observation.sourceRevision =
    if observation.isGuestEdit ∨ observation.sourceEpoch ≠ review.sourceEpoch then
      review.sourceRevision + 1
    else review.sourceRevision

instance (observation : AppliedReviewObservation) (review : ReviewRow) :
    Decidable (observation.Follows review) := by
  unfold AppliedReviewObservation.Follows
  infer_instance

/-- The purge of AI drafts that runs with an applied observation: every one when the source moved,
otherwise those past their adoption window. Follows
`src/src/contexts/review/infrastructure/repositories/review-observation.repository.ts:545–560`. -/
def purgeWithObservation (s : Store) (sourceMoved aiWindowHasPassed : Bool) : Store :=
  if sourceMoved || aiWindowHasPassed then withdrawAiDrafts s else s

/-- Apply one review observation and fence the replies written for an older source. Follows
`src/src/contexts/review/infrastructure/review-command-store.ts:264–273`. -/
def applyReviewObservation (s : Store) (observation : AppliedReviewObservation) : Store :=
  let moved := observation.sourceRevision != s.review.sourceRevision ||
    observation.sourceEpoch != s.review.sourceEpoch
  let observed :=
    { s with
      review :=
        { s.review with
          sourceEpoch := observation.sourceEpoch
          sourceRevision := observation.sourceRevision
          sourceContentState := .active } }
  let purged := purgeWithObservation observed moved observation.aiWindowHasPassed
  let fenced := supersedeStaleReviewPublications purged
  if observation.isGuestEdit then takeBackReplyPutForwardBeforeGuestEdit fenced else fenced

/-- Erase provider content that expired or was deleted. Follows
`src/src/contexts/review/infrastructure/review-source-content-store.ts:118–250`. -/
def eraseReviewSourceContent (s : Store) (sourceEpoch expectedSourceRevision : Nat)
    (state : ContentState) : Store :=
  if s.review.sourceEpoch = sourceEpoch ∧ s.review.sourceRevision = expectedSourceRevision then
    let purged := withdrawAiDrafts
      { s with review := { s.review with sourceContentState := state } }
    { purged with
      observations := purged.observations.map fun row ↦
        if row.contentState = .active then
          { row with normalizedDigest := none, contentState := state }
        else row }
  else
    s

/-- Adopt an AI suggestion as the review's draft, over an unsubmitted reply or as a new one.
Follows `src/src/contexts/review/infrastructure/ai-suggested-draft-store.ts:366–440`. -/
def acceptSuggestedDraft (s : Store) (newId : Nat) (text : Text) (operationId : Nat) :
    Option Store :=
  match s.reply with
  | none =>
      some { s with
        reply := some
          { id := newId, text := text, status := .draft, aiGenerated := true
            originOperationId := some operationId, stateRevision := 1, publicationState := none
            publicationCycle := 0, publicationAttempts := 0, publicationLastErrorClass := none
            reconcileDueAt := none } }
  | some row =>
      if row.status = .draft ∨ row.status = .rejected then
        some { s with
          reply := some (applyReplyTrigger row
            { row with
              text := text
              status := .draft
              aiGenerated := true
              originOperationId := some operationId }) }
      else
        none

/-- Create the review's reply as a draft with no publication; an existing reply is left alone.
Follows `src/src/contexts/review/infrastructure/repositories/reply.repository.ts:556–577`. -/
def createDraft (s : Store) (newId : Nat) (text : Text) : Option Store :=
  match s.reply with
  | some _ => none
  | none =>
      some { s with
        reply := some
          { id := newId, text := text, status := .draft, aiGenerated := false
            originOperationId := none, stateRevision := 1, publicationState := none
            publicationCycle := 0, publicationAttempts := 0, publicationLastErrorClass := none
            reconcileDueAt := none } }

/-- Delete a draft that was never authorized. Follows
`src/src/contexts/review/infrastructure/repositories/reply.repository.ts:598–620`. -/
def deleteDraft (s : Store) (snapshot : Reply) : Option Store :=
  if !replyCommandMayStart .delete snapshot then
    none
  else if s.reply.any fun row ↦
      row.id == snapshot.id && row.status == snapshot.status && row.publicationState == none &&
        row.publicationCycle == 0 then
    some { s with reply := none }
  else
    none

/-- The row a restore leaves of a publication that was open when the backup was taken. -/
def restoreFencedReply (row : Reply) : Reply :=
  if isUndispatchedOpenCycle row then
    { row with
      publicationState := some .cancelled
      publicationLastErrorClass := none
      reconcileDueAt := none }
  else if row.publicationState = some .sending then
    { row with
      publicationState := some .ambiguous
      publicationLastErrorClass := some .ambiguous
      reconcileDueAt := some 0 }
  else row

/-- Fence the publications of a restored database. Follows
`src/src/shared/db/recovery/postgres-recovery-fence.ts:255–273`. -/
def applyRestoreFence (s : Store) : Store :=
  { s with reply := s.reply.map fun row ↦ applyReplyTrigger row (restoreFencedReply row) }

end ReputationKey.Review
