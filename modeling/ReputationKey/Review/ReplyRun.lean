import ReputationKey.Base.Run
import ReputationKey.Review.CommandSpec
import ReputationKey.Review.ObservationSpec
import ReputationKey.Review.SourceFenceSpec

/-!
# Runs of the stores of one reply

Everything that writes the rows of one reply, as one transition system. A command, a worker or a
sweep carries the reply row it read at any earlier point of the run, a publish job carries the
fence of any authorization, and each transaction commits whole or leaves the rows alone. The entry
checks of a publish job follow
`src/src/contexts/review/infrastructure/jobs/publish-reply.job.ts:123–183, 240–270` and
`src/src/contexts/review/infrastructure/jobs/publish-reply-preread.ts:76–86`.
-/

namespace ReputationKey.Review

open ReputationKey.Base

/-- The data of one publish job. Follows
`src/src/contexts/review/application/ports/reply-queue.port.ts`. -/
structure PublishReplyJobData where
  replyId : Nat
  publicationCycle : Option Nat
  propertyId : Option String
  sourceEpoch : Option Nat
  materialReviewRevision : Option Nat
  baseObservationRevision : Option Nat
  providerOperationKey : String
  deriving DecidableEq, Repr

/-- Whether the job carries the full coordinates its authorization was granted against. Follows
`src/src/contexts/review/infrastructure/jobs/publish-reply.job.ts:123–134`. -/
def PublishReplyJobData.hasCurrentAuthorizationFence (data : PublishReplyJobData) : Bool :=
  data.propertyId.isSome && data.sourceEpoch.any (fun n ↦ decide (n ≤ maxSafeInteger)) &&
    data.materialReviewRevision.any (fun n ↦ decide (0 < n) && decide (n ≤ maxSafeInteger)) &&
    data.baseObservationRevision.any (fun n ↦ decide (n ≤ maxSafeInteger))

/-- Whether the job may go on with the reply and review it read. Follows
`src/src/contexts/review/infrastructure/jobs/publish-reply.job.ts:147–204`. -/
def PublishReplyJobData.loadPublishTarget (data : PublishReplyJobData) (reply : Reply)
    (review : ReviewRow) : Bool :=
  reply.id == data.replyId && reply.status == .approved &&
    (match data.publicationCycle with
      | none => reply.publicationCycle == 0
      | some cycle => cycle == reply.publicationCycle) &&
    (reply.publicationCycle == 0 || data.hasCurrentAuthorizationFence) &&
    (reply.publicationCycle == 0 ||
      (data.propertyId == some review.propertyId && data.sourceEpoch == some review.sourceEpoch &&
        data.materialReviewRevision == some review.sourceRevision))

/-- The fence the job hands to its claim. Follows
`src/src/contexts/review/infrastructure/jobs/publish-reply.job.ts:272–278`. -/
def PublishReplyJobData.attemptStart (data : PublishReplyJobData) (review : ReviewRow) :
    PublicationAttemptStart :=
  { providerOperationKey := data.providerOperationKey
    propertyId := data.propertyId.getD review.propertyId
    sourceEpoch := data.sourceEpoch.getD review.sourceEpoch
    materialReviewRevision := data.materialReviewRevision.getD review.sourceRevision
    baseObservationRevision := data.baseObservationRevision.getD 0 }

/-- Whether the cycle is as the job found it. Follows
`src/src/contexts/review/infrastructure/jobs/publish-reply-preread.ts:76–86`. -/
def isSameAuthorizedCycle (current original : Reply) : Bool :=
  current.id == original.id && current.status == .approved &&
    current.publicationState == some .authorized &&
    current.publicationCycle == original.publicationCycle &&
    current.publicationAttempts == original.publicationAttempts

/-- Everything that writes the rows of one reply. -/
inductive StoreEvent
  | createDraft (newId : Nat) (text : Text)
  | acceptSuggestedDraft (newId : Nat) (text : Text) (operationId : Nat)
  | saveDraft (snapshot : Reply) (text : Text)
  | deleteDraft (snapshot : Reply)
  | submit (snapshot : Reply) (bindingIsCurrent : Bool)
  | reject (snapshot : Reply)
  | authorize (snapshot : Reply) (intent : PublicationIntent) (isApproval : Bool)
      (bindingIsCurrent actorAllowed : Bool) (occurredAt : Int)
  | editPublished (snapshot : Reply) (intent : PublicationIntent) (text : Text)
      (actorAllowed : Bool) (occurredAt : Int)
  | claim (job : PublishReplyJobData) (original : Reply) (review : ReviewRow) (snapshot : Reply)
      (environment : ClaimEnvironment)
  | providerOutcomePending (snapshot : Reply) (now : Int)
  | deferPendingObservation (snapshot : Reply) (now : Int)
  | deferUncertainSend (snapshot : Reply) (dueAt now : Int)
  | rescheduleAmbiguous (snapshot : Reply) (dueAt now : Int)
  | terminal (snapshot : Reply) (errorClass : PublicationFailureClass) (fact : Option Fact)
  | ambiguous (snapshot : Reply) (dueAt : Option Int) (now : Int) (fact : Option Fact)
  | settleNeverDispatched (snapshot : Reply) (mayHaveDispatched : PublicationAttempt → Bool)
      (fact : Option Fact)
  | retryQueued (snapshot : Reply) (now : Int)
  | cancel (snapshot : Reply) (cause : CancellationCause)
  | observeReply (input : RecordGoogleReplyObservation)
  | observeReview (observation : AppliedReviewObservation)
  | eraseSource (sourceEpoch expectedSourceRevision : Nat) (state : ContentState)
  | withdrawAi
  | restore

namespace StoreEvent

/-- The reply row the event carries from an earlier read. -/
def snapshot? : StoreEvent → Option Reply
  | .saveDraft snapshot _ | .deleteDraft snapshot | .submit snapshot _ | .reject snapshot
  | .authorize snapshot _ _ _ _ _ | .editPublished snapshot _ _ _ _ | .claim _ _ _ snapshot _
  | .providerOutcomePending snapshot _ | .deferPendingObservation snapshot _
  | .deferUncertainSend snapshot _ _ | .rescheduleAmbiguous snapshot _ _
  | .terminal snapshot _ _ | .ambiguous snapshot _ _ _ | .settleNeverDispatched snapshot _ _
  | .retryQueued snapshot _ | .cancel snapshot _ => some snapshot
  | .createDraft _ _ | .acceptSuggestedDraft _ _ _ | .observeReply _ | .observeReview _
  | .eraseSource _ _ _ | .withdrawAi | .restore => none

/-- Who makes the moves of the event. -/
def actor : StoreEvent → Actor
  | .createDraft newId _ | .acceptSuggestedDraft newId _ _ => .author newId
  | .saveDraft _ _ => .manager .saveDraft
  | .deleteDraft _ => .manager .delete
  | .submit _ _ => .manager .submit
  | .reject _ => .manager .reject
  | .authorize _ _ isApproval _ _ _ => .manager (authorizingCommand isApproval)
  | .editPublished _ _ _ _ _ => .manager .editPublished
  | .claim _ _ _ _ _ => .worker
  | .providerOutcomePending _ _ | .deferPendingObservation _ _ | .deferUncertainSend _ _ _
  | .rescheduleAmbiguous _ _ _ | .terminal _ _ _ | .ambiguous _ _ _ _
  | .settleNeverDispatched _ _ _ | .retryQueued _ _ | .cancel _ _ | .withdrawAi
  | .restore => .system
  | .observeReply _ => .reader
  | .observeReview _ | .eraseSource _ _ _ => .source

/-- The claim's outcome as a write. -/
def ofClaim : Except ReviewError ClaimOutcome → Write
  | .error e => .error e
  | .ok .refused => .ok none
  | .ok (.cancelled s) => .ok (some s)
  | .ok (.claimed s _) => .ok (some s)

/-- The transaction of one event. -/
def apply (platform : Platform) (s : Store) : StoreEvent → Write
  | .createDraft newId text => .ok (Review.createDraft s newId text)
  | .acceptSuggestedDraft newId text operationId =>
      .ok (Review.acceptSuggestedDraft s newId text operationId)
  | .saveDraft snapshot text => Review.saveDraft s snapshot text
  | .deleteDraft snapshot => .ok (Review.deleteDraft s snapshot)
  | .submit snapshot bindingIsCurrent => submitReply s snapshot bindingIsCurrent
  | .reject snapshot => rejectReply s snapshot
  | .authorize snapshot intent isApproval bindingIsCurrent actorAllowed occurredAt =>
      markPublicationAuthorized platform s snapshot intent isApproval bindingIsCurrent
        actorAllowed occurredAt
  | .editPublished snapshot intent text actorAllowed occurredAt =>
      editPublishedReply platform s snapshot intent text actorAllowed occurredAt
  | .claim job _ review snapshot environment =>
      ofClaim (markPublicationSending platform s snapshot (job.attemptStart review) environment)
  | .providerOutcomePending snapshot now => markProviderOutcomePendingObservation s snapshot now
  | .deferPendingObservation snapshot now => deferPendingPublicationObservation s snapshot now
  | .deferUncertainSend snapshot dueAt now => Review.deferUncertainSend s snapshot dueAt now
  | .rescheduleAmbiguous snapshot dueAt now =>
      rescheduleAmbiguousReconciliation s snapshot dueAt now
  | .terminal snapshot errorClass fact => markPublicationTerminal s snapshot errorClass fact
  | .ambiguous snapshot dueAt now fact => markPublicationAmbiguous s snapshot dueAt now fact
  | .settleNeverDispatched snapshot mayHaveDispatched fact =>
      settleNeverDispatchedAttempt s snapshot mayHaveDispatched fact
  | .retryQueued snapshot now => markPublicationRetryQueued s snapshot now
  | .cancel snapshot cause => cancelPublication s snapshot cause
  | .observeReply input => (recordObservation platform s input).map fun r ↦ some r.1
  | .observeReview observation => .ok (some (applyReviewObservation s observation))
  | .eraseSource sourceEpoch expectedSourceRevision state =>
      .ok (some (eraseReviewSourceContent s sourceEpoch expectedSourceRevision state))
  | .withdrawAi => .ok (some (withdrawAiDrafts s))
  | .restore => .ok (some (applyRestoreFence s))

/-- What the callers of the stores promise of an event: its snapshot is a row some party read, a
new identifier was never used, a publish job passed its entry checks on what it read, a review
observation follows the law of the material revision, and erased content is not active. -/
structure Admissible (seen : Store → Prop) (s : Store) (e : StoreEvent) : Prop where
  snapshot : ∀ snapshot, e.snapshot? = some snapshot →
    ∃ p, seen p ∧ p.reply = some snapshot
  newId : ∀ newId, e.actor = .author newId →
    ∀ p row, seen p → p.reply = some row → row.id ≠ newId
  job : ∀ job original review snapshot environment,
    e = .claim job original review snapshot environment →
      (∃ p, seen p ∧ p.reply = some original) ∧ (∃ p, seen p ∧ p.review = review) ∧
        job.loadPublishTarget original review ∧
        (snapshot = original ∨ isSameAuthorizedCycle snapshot original)
  observation : ∀ observation, e = .observeReview observation → observation.Follows s.review
  erased : ∀ sourceEpoch expectedSourceRevision state,
    e = .eraseSource sourceEpoch expectedSourceRevision state → state ≠ .active

/-- A command or a worker's write that carries the present row, other than a claim. -/
theorem admissible_of_current {seen : Store → Prop} {s : Store} {e : StoreEvent} {row : Reply}
    (hseen : seen s) (present : s.reply = some row) (carries : e.snapshot? = some row)
    (notClaim : e.actor ≠ .worker) : e.Admissible seen s := by
  constructor
  · intro snapshot hsnapshot
    rw [carries] at hsnapshot
    cases hsnapshot
    exact ⟨s, hseen, present⟩
  · intro newId hauthor
    cases e <;> simp [actor, snapshot?] at hauthor carries
  · rintro job original review snapshot environment rfl
    exact absurd rfl notClaim
  · rintro observation rfl
    cases carries
  · rintro sourceEpoch expectedSourceRevision state rfl
    cases carries

end StoreEvent

/-- The stores of one reply: from `init`, each event whose transaction commits is one step. -/
def replySystem (platform : Platform) (init : Store → Prop) : ReadSystem Store StoreEvent where
  init := init
  step seen s e s' := e.Admissible seen s ∧ e.apply platform s = .ok (some s')

section Runs

variable {platform : Platform} {init : Store → Prop} {h : List (Move Store StoreEvent)}
  {s s' : Store}

/-- Every event that commits makes a sequence of moves. -/
theorem StoreEvent.apply_moves {e : StoreEvent} (h : e.apply platform s = .ok (some s')) :
    StoreMoves platform e.actor s s' := by
  cases e with
  | createDraft newId text => exact createDraft_moves (Except.ok.inj h)
  | acceptSuggestedDraft newId text operationId =>
      exact acceptSuggestedDraft_moves (Except.ok.inj h)
  | saveDraft snapshot text => exact saveDraft_moves h
  | deleteDraft snapshot => exact deleteDraft_moves (Except.ok.inj h)
  | submit snapshot bindingIsCurrent => exact submitReply_moves h
  | reject snapshot => exact rejectReply_moves h
  | authorize snapshot intent isApproval bindingIsCurrent actorAllowed occurredAt =>
      exact markPublicationAuthorized_moves h
  | editPublished snapshot intent text actorAllowed occurredAt =>
      exact editPublishedReply_moves h
  | claim job original review snapshot environment =>
      simp only [StoreEvent.apply, StoreEvent.ofClaim] at h
      split at h
      · cases h
      · cases h
      · next hcancelled =>
          cases h
          exact markPublicationSending_cancelled hcancelled
      · next hclaimed =>
          cases h
          obtain ⟨row, authorization, spec⟩ := markPublicationSending_claimed hclaimed
          exact .single spec.move
  | providerOutcomePending snapshot now => exact markProviderOutcomePendingObservation_moves h
  | deferPendingObservation snapshot now => exact deferPendingPublicationObservation_moves h
  | deferUncertainSend snapshot dueAt now => exact deferUncertain_moves h
  | rescheduleAmbiguous snapshot dueAt now => exact deferUncertain_moves h
  | terminal snapshot errorClass fact => exact markPublicationTerminal_moves h
  | ambiguous snapshot dueAt now fact => exact markPublicationAmbiguous_moves h
  | settleNeverDispatched snapshot mayHaveDispatched fact =>
      obtain ⟨row, attempt, uncertain, spec⟩ := settleNeverDispatchedAttempt_eq_ok h
      exact spec.moves
  | retryQueued snapshot now => exact markPublicationRetryQueued_moves h
  | cancel snapshot cause => exact cancelPublication_moves h
  | observeReply input =>
      simp only [StoreEvent.apply] at h
      cases hrecord : recordObservation platform s input with
      | error e =>
          rw [hrecord] at h
          cases h
      | ok recorded =>
          rw [hrecord] at h
          cases h
          exact recordObservation_moves hrecord
  | observeReview observation =>
      cases h
      exact applyReviewObservation_moves s observation
  | eraseSource sourceEpoch expectedSourceRevision state =>
      cases h
      exact eraseReviewSourceContent_moves s sourceEpoch expectedSourceRevision state
  | withdrawAi =>
      cases h
      exact withdrawAiDrafts_moves s
  | restore =>
      cases h
      exact applyRestoreFence_moves s

/-- A property of the initial rows that every move keeps holds after every run. -/
theorem run_invariant_of_moves {I : Store → Prop} (start : ∀ s, init s → I s)
    (move : ∀ actor s s', I s → StoreMove platform actor s s' → I s')
    (r : Run (replySystem platform init) h s) : I s := by
  refine Run.invariant start (fun _ s e s' _ hI hstep ↦ ?_) r
  have hmoves := StoreEvent.apply_moves hstep.2
  clear hstep
  induction hmoves with
  | refl => exact hI
  | tail _ hmove ih => exact move _ _ _ ih hmove

/-- A relation between stores that every move extends relates every store a run passed through to
the one it reached. -/
theorem run_related_of_moves {R : Store → Store → Prop} (refl : ∀ s, R s s)
    (trans : ∀ p s s', R p s → R s s' → R p s')
    (move : ∀ actor s s', StoreMove platform actor s s' → R s s')
    (r : Run (replySystem platform init) h s) {p : Store} (seen : Seen h s p) : R p s := by
  refine Run.seen_related refl trans (fun _ s e s' _ hstep ↦ ?_) r seen
  have hmoves := StoreEvent.apply_moves hstep.2
  clear hstep
  induction hmoves with
  | refl => exact refl _
  | tail _ hmove ih => exact trans _ _ _ ih (move _ _ _ hmove)

end Runs

section Sample

/-- The text `ok`. -/
def sampleText : Text := [111, 107]

/-- A platform for ASCII text: canonical composition leaves it alone, the digest of `ok` is its
SHA-256, and every other text has a digest of its own. The two identities are those of a snapshot
that shows `ok` and of one that shows no reply, for `org-1`, `property-1` and `review-1`. -/
def samplePlatform : Platform where
  normalizeNfc := id
  sha256Hex text :=
    if text = Platform.normalizationPrefix ++ sampleText then
      "4b414f4951105ddeb44a9a778bdeaba185862c53a8b10def7ae84e2312b12745"
    else String.ofList (text.map fun unit ↦ Char.ofNat (0x10000 + unit.toNat))
  identityDigest identity :=
    if identity = ⟨"property-1", 1, 1, false, none, none, none⟩ then
      "7143ed771b4a570a4a67b3148a1bf0a6b7a96f6b7b9ac897b3cda0d774337a78"
    else if identity = ⟨"property-1", 1, 1, false,
        some "4b414f4951105ddeb44a9a778bdeaba185862c53a8b10def7ae84e2312b12745", none, none⟩ then
      "b8a78d7994a73b9bb30d045f1124e4d5e4eaa343625570cf61a4440a68a9b7e9"
    else ""

/-- A reply waiting for approval, never authorized. -/
def sampleReply : Reply where
  id := 1
  text := sampleText
  status := .pendingApproval
  aiGenerated := false
  originOperationId := none
  stateRevision := 2
  publicationState := none
  publicationCycle := 0
  publicationAttempts := 0
  publicationLastErrorClass := none
  reconcileDueAt := none

/-- The rows of a review whose reply waits for approval. -/
def sampleStore : Store where
  reply := some sampleReply
  attempts := []
  authorizations := []
  review := ⟨"property-1", 1, 1, .active⟩
  observations := []
  facts := []

/-- What the manager approves. -/
def sampleIntent : PublicationIntent := ⟨"property-1", "user-1", 1, 1, 1, 0⟩

/-- The job of the approved cycle. -/
def sampleJob : PublishReplyJobData :=
  ⟨1, some 1, some "property-1", some 1, some 1, some 0, "reply-1-v1:1"⟩

/-- A Property that admits the cycle and a manager who still may publish. -/
def sampleEnvironment : ClaimEnvironment := ⟨false, false, some ⟨true, 1⟩, true, 5⟩

/-- The reply after its approval. -/
def sampleAuthorizedReply : Reply :=
  applyReplyTrigger sampleReply (authorizedReply sampleReply sampleText false 1 0)

/-- The rows after the approval. -/
def sampleAuthorizedStore : Store :=
  { sampleStore with
    reply := some sampleAuthorizedReply
    authorizations := [authorizationRow samplePlatform sampleIntent sampleAuthorizedReply 0]
    facts := [.publicationRequested sampleIntent, .approved] }

/-- The approval. -/
def sampleApproval : StoreEvent := .authorize sampleReply sampleIntent true true true 0

/-- The claim of the approved cycle. -/
def sampleClaim : StoreEvent :=
  .claim sampleJob sampleAuthorizedReply sampleStore.review sampleAuthorizedReply
    sampleEnvironment

/-- The attempt the claim inserts. -/
def sampleAttempt : PublicationAttempt :=
  claimedAttempt sampleAuthorizedStore sampleAuthorizedReply
    (sampleJob.attemptStart sampleStore.review)
    (authorizationRow samplePlatform sampleIntent sampleAuthorizedReply 0) 5

/-- The rows after the claim. -/
def sampleSendingStore : Store :=
  { sampleAuthorizedStore with
    reply := some (applyReplyTrigger sampleAuthorizedReply (claimedReply sampleAuthorizedReply 5))
    attempts := [sampleAttempt] }

/-- An approval and the claim of its cycle, as a run from a reply waiting for approval. -/
theorem sampleRun {init : Store → Prop} (start : init sampleStore) :
    Run (replySystem samplePlatform init)
      [⟨sampleAuthorizedStore, sampleClaim, sampleSendingStore⟩,
        ⟨sampleStore, sampleApproval, sampleAuthorizedStore⟩] sampleSendingStore := by
  refine .next (.next (.start start) ⟨StoreEvent.admissible_of_current (Or.inl rfl) rfl rfl
    (by decide), by rfl⟩) ⟨⟨?_, ?_, ?_, ?_, ?_⟩, by rfl⟩
  · rintro snapshot ⟨⟩
    exact ⟨sampleAuthorizedStore, Or.inl rfl, rfl⟩
  · rintro newId ⟨⟩
  · rintro job original review snapshot environment ⟨⟩
    exact ⟨⟨sampleAuthorizedStore, Or.inl rfl, rfl⟩, ⟨sampleAuthorizedStore, Or.inl rfl, rfl⟩,
      by rfl, Or.inl rfl⟩
  · rintro observation ⟨⟩
  · rintro sourceEpoch expectedSourceRevision state ⟨⟩

end Sample

end ReputationKey.Review
