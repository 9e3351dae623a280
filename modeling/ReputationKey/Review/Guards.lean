import ReputationKey.Review.Rows

/-!
# Guarded writes of a reply

The rows of one reply as one state, the revision trigger, and the two compare-and-set guards every
reply command and every publication write goes through. Follows
`src/src/contexts/review/infrastructure/reply-write-guards.ts:45–254` and
`src/drizzle/0001_db_constructs.sql:1716–1840`.
-/

namespace ReputationKey.Review

/-- The fence a manager's authorization names and its publish job carries. Follows
`src/src/contexts/review/domain/events.ts:273–300`. -/
structure PublicationIntent where
  propertyId : String
  userId : String
  publicationCycle : Nat
  sourceEpoch : Nat
  materialReviewRevision : Nat
  baseObservationRevision : Nat
  deriving DecidableEq, Repr

/-- Why a publication was cancelled. Follows
`src/src/contexts/review/domain/events.ts:479–485`. -/
inductive CancellationCause
  | disconnect
  | policy
  | sourceChanged
  | providerTruth
  | aiDraftWithdrawn
  deriving DecidableEq, Repr

/-- The facts a reply store records in the transaction of its write. -/
inductive Fact
  | submitted
  | approved
  | rejected
  | updated
  | publishFailed
  | publicationRequested (intent : PublicationIntent)
  | publicationCancelled (cause : CancellationCause)
  | published
  | observed (observationRevision : Nat) (change : ObservationChange)
      (resolution : ObservationResolution)
  deriving DecidableEq, Repr

/-- Every row of one review and its internal reply, if it has one, with the facts recorded so far,
newest first. -/
structure Store where
  reply : Option Reply
  attempts : List PublicationAttempt
  authorizations : List PublicationAuthorization
  review : ReviewRow
  observations : List GoogleReplyObservation
  facts : List Fact
  deriving DecidableEq, Repr

/-- The current provider head: the newest observation, which every append makes the head. -/
def Store.head (s : Store) : Option GoogleReplyObservation := s.observations.head?

/-- The row trigger: text that is not AI's has no origin, and a change of text, status, authorship
or origin advances the state revision by one. Follows
`src/drizzle/0001_db_constructs.sql:1790–1838`. -/
def applyReplyTrigger (old new : Reply) : Reply :=
  let origin := if new.aiGenerated then new.originOperationId else none
  { new with
    originOperationId := origin
    stateRevision :=
      if new.text ≠ old.text ∨ new.status ≠ old.status ∨ new.aiGenerated ≠ old.aiGenerated ∨
          origin ≠ old.originOperationId then
        old.stateRevision + 1
      else old.stateRevision }

/-- Record one fact. -/
def Store.record (s : Store) (fact : Fact) : Store := { s with facts := fact :: s.facts }

/-- Record the fact a caller supplied, if any. -/
def Store.recordOptional (s : Store) : Option Fact → Store
  | none => s
  | some fact => s.record fact

/-- Whether an attempt row is the one the reply points at. -/
def PublicationAttempt.isCurrentOf (reply : Reply) (attempt : PublicationAttempt) : Bool :=
  attempt.replyId == reply.id && attempt.publicationCycle == reply.publicationCycle &&
    attempt.attemptNumber == reply.publicationAttempts

/-- Whether an attempt row is the one the reply points at, in one of the named outcomes. -/
def PublicationAttempt.isCurrentIn (reply : Reply) (fromOutcomes : Option (List AttemptOutcome))
    (attempt : PublicationAttempt) : Bool :=
  attempt.isCurrentOf reply && fromOutcomes.all fun outcomes ↦ outcomes.contains attempt.outcome

/-- Write a set clause to every attempt row a predicate selects. -/
def Store.setAttempts (s : Store) (selects : PublicationAttempt → Bool)
    (set : PublicationAttempt → PublicationAttempt) : Store :=
  { s with
    attempts := s.attempts.map fun attempt ↦ if selects attempt then set attempt else attempt }

/-- Set the outcome of an attempt. -/
def PublicationAttempt.setOutcome (outcome : AttemptOutcome) (attempt : PublicationAttempt) :
    PublicationAttempt :=
  { attempt with outcome := outcome }

/-- Set the outcome of an attempt and clear the observation that confirmed it. -/
def PublicationAttempt.settle (outcome : AttemptOutcome) (attempt : PublicationAttempt) :
    PublicationAttempt :=
  { attempt with outcome := outcome, confirmedObservationRevision := none }

/-- The commands whose write puts the reply's text forward. Follows
`src/src/contexts/review/infrastructure/reply-write-guards.ts:62–67`. -/
def putsTextForward : ReplyCommand → Bool
  | .submit | .approve | .retryPublication | .editPublished => true
  | .saveDraft | .reject | .delete | .confirmPublished => false

/-- Whether the row is still the reply the caller read. Follows
`src/src/contexts/review/infrastructure/reply-write-guards.ts:81–97`. -/
def replySnapshotMatches (row snapshot : Reply) (command : ReplyCommand) : Bool :=
  row.id == snapshot.id && row.status == snapshot.status &&
    row.publicationState == snapshot.publicationState &&
    row.publicationCycle == snapshot.publicationCycle &&
    (!putsTextForward command || row.stateRevision == snapshot.stateRevision) &&
    (command != .retryPublication ||
      row.publicationLastErrorClass == snapshot.publicationLastErrorClass)

/-- Whether unedited AI text may move toward Google now. Follows
`src/src/contexts/review/infrastructure/reply-write-guards.ts:104–111`. -/
def aiTextMayAdvance (snapshot : Reply) (bindingIsCurrent : Bool) : Bool :=
  !snapshot.aiGenerated || bindingIsCurrent

/-- The set clause of a command: a command by which a manager writes the text also ends the
adoption of AI text. -/
def replySetClause (command : ReplyCommand) (updates : Reply → Reply) (row : Reply) : Reply :=
  if aiTextRuleOf command = .endsAdoption then { updates row with aiGenerated := false }
  else updates row

/-- Guarded write for one reply command: the rows after it and the row it returned, or `none`.
Follows `src/src/contexts/review/infrastructure/reply-write-guards.ts:159–185`. -/
def guardedReplyUpdate (s : Store) (snapshot : Reply) (command : ReplyCommand)
    (bindingIsCurrent : Bool) (updates : Reply → Reply) : Option (Store × Reply) :=
  if !replyCommandMayStart command snapshot then
    none
  else if aiTextRuleOf command = .needsCurrentBinding ∧
      !aiTextMayAdvance snapshot bindingIsCurrent then
    none
  else
    match s.reply with
    | none => none
    | some row =>
        if replySnapshotMatches row snapshot command then
          let saved := applyReplyTrigger row (replySetClause command updates row)
          some ({ s with reply := some saved }, saved)
        else
          none

/-- Whether the row is in the exact publication state and attempt the caller read. -/
def publicationSnapshotMatches (row snapshot : Reply) (expectedStatus : ReplyStatus) : Bool :=
  row.id == snapshot.id && row.status == expectedStatus &&
    row.stateRevision == snapshot.stateRevision &&
    row.publicationCycle == snapshot.publicationCycle &&
    row.publicationState == snapshot.publicationState &&
    row.publicationAttempts == snapshot.publicationAttempts

/-- Guarded publication write: the rows after it and the row it returned, or `none`. Follows
`src/src/contexts/review/infrastructure/reply-write-guards.ts:196–221`. -/
def guardedPublicationUpdate (s : Store) (snapshot : Reply) (expectedStatus : ReplyStatus)
    (allowedStates : List PersistedPublicationState) (set : Reply → Reply) :
    Option (Store × Reply) :=
  match snapshot.publicationState with
  | none => none
  | some state =>
      if !allowedStates.contains state then
        none
      else
        match s.reply with
        | none => none
        | some row =>
            if publicationSnapshotMatches row snapshot expectedStatus then
              let saved := applyReplyTrigger row (set row)
              some ({ s with reply := some saved }, saved)
            else
              none

/-- Update the attempt row the saved reply points at; its absence is divergence, and throws.
Follows `src/src/contexts/review/infrastructure/reply-write-guards.ts:227–254`. -/
def updateCurrentAttempt (s : Store) (reply : Reply)
    (set : PublicationAttempt → PublicationAttempt)
    (fromOutcomes : Option (List AttemptOutcome)) : Except ReviewError Store :=
  if s.attempts.any (PublicationAttempt.isCurrentIn reply fromOutcomes) then
    .ok (s.setAttempts (PublicationAttempt.isCurrentIn reply fromOutcomes) set)
  else
    .error ⟨.invalidTransition, "Reply publication attempt evidence is missing"⟩

/-- The claim's gate on AI text: a current binding, or inputs that are current and an attempt for
the text the reply holds. Follows
`src/src/contexts/review/infrastructure/reply-write-guards.ts:129–152`. -/
def aiTextMayBeClaimed (platform : Platform) (s : Store) (snapshot : Reply)
    (bindingIsCurrent inputsAreCurrent : Bool) : Bool :=
  aiTextMayAdvance snapshot bindingIsCurrent ||
    (inputsAreCurrent &&
      s.attempts.any fun attempt ↦
        attempt.replyId == snapshot.id &&
          attempt.expectedReplyDigest == platform.googleReplyTextDigest snapshot.text)

section SpecLemmas

/-- The trigger keeps which attempt a reply points at. -/
@[simp] theorem isCurrentOf_applyReplyTrigger (old new : Reply) :
    PublicationAttempt.isCurrentOf (applyReplyTrigger old new) =
      PublicationAttempt.isCurrentOf new := rfl

/-- A guarded command wrote only over the reply its caller read, from its own start. -/
theorem guardedReplyUpdate_eq_some {s s' : Store} {snapshot saved : Reply}
    {command : ReplyCommand} {bindingIsCurrent : Bool} {updates : Reply → Reply}
    (h : guardedReplyUpdate s snapshot command bindingIsCurrent updates = some (s', saved)) :
    ∃ row, s.reply = some row ∧ replyCommandMayStart command snapshot ∧
      (aiTextRuleOf command = .needsCurrentBinding →
        aiTextMayAdvance snapshot bindingIsCurrent) ∧
      replySnapshotMatches row snapshot command ∧
      saved = applyReplyTrigger row (replySetClause command updates row) ∧
      s' = { s with reply := some saved } := by
  unfold guardedReplyUpdate at h
  split at h
  · cases h
  · next hstart =>
      split at h
      · cases h
      · next hai =>
          split at h
          · cases h
          · next row hrow =>
              split at h
              · next hmatch =>
                  cases h
                  refine ⟨row, hrow, by simpa using hstart, fun hrule ↦ ?_, hmatch, rfl, rfl⟩
                  simpa [hrule] using hai
              · cases h

/-- A guarded publication write changed only the exact row, state and attempt its caller read. -/
theorem guardedPublicationUpdate_eq_some {s s' : Store} {snapshot saved : Reply}
    {expectedStatus : ReplyStatus} {allowedStates : List PersistedPublicationState}
    {set : Reply → Reply}
    (h : guardedPublicationUpdate s snapshot expectedStatus allowedStates set =
      some (s', saved)) :
    ∃ row, s.reply = some row ∧
      (∃ state ∈ allowedStates, snapshot.publicationState = some state) ∧
      publicationSnapshotMatches row snapshot expectedStatus ∧
      saved = applyReplyTrigger row (set row) ∧ s' = { s with reply := some saved } := by
  unfold guardedPublicationUpdate at h
  split at h
  · cases h
  · next state hstate =>
      split at h
      · cases h
      · next hallowed =>
          split at h
          · cases h
          · next row hrow =>
              split at h
              · next hmatch =>
                  cases h
                  refine ⟨row, hrow, ⟨state, by simpa using hallowed, hstate⟩, hmatch, rfl, rfl⟩
              · cases h

/-- An attempt update found a row the reply points at, and changed only such rows. -/
theorem updateCurrentAttempt_eq_ok {s s' : Store} {reply : Reply}
    {set : PublicationAttempt → PublicationAttempt} {fromOutcomes : Option (List AttemptOutcome)}
    (h : updateCurrentAttempt s reply set fromOutcomes = .ok s') :
    (∃ attempt ∈ s.attempts, attempt.isCurrentIn reply fromOutcomes) ∧
      s' = s.setAttempts (PublicationAttempt.isCurrentIn reply fromOutcomes) set := by
  unfold updateCurrentAttempt at h
  split at h
  · next hany => exact ⟨List.any_eq_true.1 hany, by simpa using h.symm⟩
  · cases h

end SpecLemmas

end ReputationKey.Review
