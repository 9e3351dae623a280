import ReputationKey.Review.AuthorizedText

/-!
# What a guest edit fences

A guest edit cancels every open publication, whose authorization names an older revision, and takes
back the reply a manager had put forward, so the human reply it leaves is one no approval and no
retry may start from. No other writer puts it forward again: only a submission or an edit does.
Text written by AI is withdrawn by the purge of the same observation, except in a cycle that has
ended, which the observation leaves to the claim's own gate.
-/

namespace ReputationKey.Review

open ReputationKey.Base

variable {platform : Platform} {actor : Actor} {init : Store → Prop}
  {h : List (Move Store StoreEvent)} {s s' : Store} {row : Reply}

/-- Where the statuses of a reply stand in its publication. -/
structure Reply.Placed (row : Reply) : Prop where
  outside : row.status = .draft ∨ row.status = .rejected ∨ row.status = .pendingApproval →
    row.publicationState = none ∨ row.publicationState = some .cancelled
  published : row.status = .published →
    row.publicationState = none ∨ row.publicationState = some .published
  terminal : row.publicationState = some .terminal → row.status = .publishFailed
  aiNever : row.aiGenerated → row.publicationState = none →
    row.status = .draft ∨ row.status = .rejected ∨ row.status = .pendingApproval

/-- The trigger moves neither the status nor the publication. -/
theorem Reply.placed_applyReplyTrigger {row new : Reply} (placed : new.Placed) :
    (applyReplyTrigger row new).Placed :=
  ⟨placed.outside, placed.published, placed.terminal, placed.aiNever⟩

/-- A publication write leaves a placed reply placed. -/
theorem PublicationChange.placed {status : ReplyStatus} {state : PublicationStateInput}
    {errorClass : Option PublicationFailureClass} (dueAt : Option Int)
    (change : PublicationChange row status state errorClass) (placed : row.Placed) :
    (row.withPublication status state errorClass dueAt).Placed := by
  have hout := placed.outside
  have hpub := placed.published
  cases change with
  | deferred => exact ⟨hout, hpub, placed.terminal, placed.aiNever⟩
  | accepted read =>
      constructor <;> simp_all [Reply.withPublication]
  | requeued approved read =>
      constructor <;> simp_all [Reply.withPublication]
  | failed errorClass read => constructor <;> simp [Reply.withPublication]
  | uncertain read => constructor <;> simp [Reply.withPublication]
  | neverDispatched read => constructor <;> simp [Reply.withPublication]
  | cancelled read => constructor <;> simp [Reply.withPublication]
  | confirmed status read => constructor <;> simp [Reply.withPublication]
  | takenBack takenBack read =>
      unfold takenBackByGuestEdit at read
      split at read
      · cases read
      · split at read
        · cases read
          constructor <;> simp [Reply.withPublication, em]
        · split at read
          · cases read
          · cases read
            constructor <;> simp [Reply.withPublication]
  | restoreCancelled read =>
      simp only [isUndispatchedOpenCycle, Bool.or_eq_true, beq_iff_eq] at read
      constructor
      · intro _
        exact Or.inr rfl
      · intro hstatus
        rcases hpub hstatus with h | h <;> rcases read with h' | h' <;> rw [h] at h' <;> cases h'
      · intro h
        cases h
      · intro _ h
        cases h
  | restoreUncertain read =>
      constructor
      · intro hstatus
        rcases hout hstatus with h | h <;> rw [h] at read <;> cases read
      · intro hstatus
        rcases hpub hstatus with h | h <;> rw [h] at read <;> cases read
      · intro h
        cases h
      · intro _ h
        cases h

/-- Every move leaves a placed reply placed. -/
theorem StoreMove.placed (m : StoreMove platform actor s s')
    (placed : ∀ row, s.reply = some row → row.Placed) :
    ∀ row, s'.reply = some row → row.Placed := by
  intro row' hrow'
  cases m with
  | told facts => exact placed row' hrow'
  | observed observations isReader keeps => exact placed row' hrow'
  | reviewed review isSource => exact placed row' hrow'
  | create row isAuthor absent isDraft hasNoState hasNoCycle =>
      cases hrow'
      constructor <;> simp [isDraft, hasNoState]
  | delete row present never => cases hrow'
  | rewrite row text status aiGenerated origin present read written authorship =>
      cases hrow'
      have hout := (placed row present).outside read
      have hstatus : status = .draft ∨ status = .rejected ∨ status = .pendingApproval := by
        rcases written with h | h | ⟨h, -⟩
        · exact Or.inl h
        · exact Or.inr (Or.inl h)
        · exact Or.inr (Or.inr h)
      refine Reply.placed_applyReplyTrigger ⟨fun _ ↦ hout, fun h ↦ ?_, fun h ↦ ?_,
        fun _ _ ↦ hstatus⟩
      · change status = .published at h
        rw [h] at hstatus
        simp at hstatus
      · change row.publicationState = some .terminal at h
        rw [h] at hout
        simp at hout
  | authorize row command intent text aiGenerated occurredAt present =>
      cases hrow'
      refine Reply.placed_applyReplyTrigger ?_
      constructor <;> simp [authorizedReply]
  | claim row attempt now present isWorker approved =>
      cases hrow'
      refine Reply.placed_applyReplyTrigger ?_
      constructor <;> simp [claimedReply, approved]
  | publication row status state errorClass dueAt selects set present change settles =>
      cases hrow'
      exact Reply.placed_applyReplyTrigger (change.placed dueAt (placed row present))
  | withdraw row present isAi undispatched selects selected =>
      cases hrow'
      refine Reply.placed_applyReplyTrigger ?_
      constructor <;> simp [emptiedByWithdrawal]

/-- A withdrawal leaves the review row. -/
@[simp] theorem withdrawAiDrafts_review (s : Store) : (withdrawAiDrafts s).review = s.review := by
  unfold withdrawAiDrafts
  repeat' split
  all_goals rfl

/-- The purge of an observation leaves the review row. -/
@[simp] theorem purgeWithObservation_review (s : Store) (moved passed : Bool) :
    (purgeWithObservation s moved passed).review = s.review := by
  unfold purgeWithObservation
  split
  · exact withdrawAiDrafts_review s
  · rfl

/-- Closing an attempt leaves the review row. -/
@[simp] theorem supersedeCurrentAttempt_review (s : Store) (row : Reply) :
    (supersedeCurrentAttempt s row).review = s.review := by
  unfold supersedeCurrentAttempt
  split <;> rfl

/-- Superseding stale publications leaves the review row. -/
@[simp] theorem supersedeStaleReviewPublications_review (s : Store) :
    (supersedeStaleReviewPublications s).review = s.review := by
  unfold supersedeStaleReviewPublications
  split
  · rfl
  · split
    · rw [withdrawAiDrafts_review]
      exact supersedeCurrentAttempt_review s _
    · rfl

/-- Taking a reply back leaves the review row. -/
@[simp] theorem takeBackReplyPutForwardBeforeGuestEdit_review (s : Store) :
    (takeBackReplyPutForwardBeforeGuestEdit s).review = s.review := by
  unfold takeBackReplyPutForwardBeforeGuestEdit
  split
  · rfl
  · split
    · rfl
    · simp only [Store.record]
      split
      · exact supersedeCurrentAttempt_review _ _
      · rfl

/-- A reply somebody put forward: it waits for approval, its publication is open or unanswered, or
it failed and may be tried again now or on proof. -/
def Reply.IsPutForward (row : Reply) : Prop :=
  row.status = .pendingApproval ∨ isSourceActive row ∨ isAtCommandStart .retryPublication row

/-- A human reply no approval and no retry may start from, with no open publication. -/
structure Reply.Settled (row : Reply) : Prop where
  notPending : row.status ≠ .pendingApproval
  closed : row.publicationState = none ∨ row.publicationState = some .published ∨
    row.publicationState = some .cancelled

/-- A reply nobody put forward is settled. -/
theorem Reply.Placed.settled (placed : row.Placed) (idle : ¬ row.IsPutForward) : row.Settled := by
  simp only [IsPutForward, not_or] at idle
  obtain ⟨hpending, hactive, hfailed⟩ := idle
  refine ⟨hpending, ?_⟩
  cases hstate : row.publicationState with
  | none => exact Or.inl rfl
  | some state =>
      have hended : state ≠ .terminal := by
        rintro rfl
        have hstatus := placed.terminal hstate
        simp [isAtCommandStart, replyCommandStarts, hstatus, hstate] at hfailed
      cases state <;>
        simp_all [isSourceActive, sourceActivePublicationStates]

/-- The rows a run may start from: nothing attempted or authorized, and a placed reply if any. -/
def StartsPlaced (s : Store) : Prop :=
  s.attempts = [] ∧ s.authorizations = [] ∧ ∀ row, s.reply = some row → row.Placed

section Sample

/-- The rows an event leaves, or the same rows when it writes none. -/
def sampleAfter (s : Store) (e : StoreEvent) : Store :=
  match e.apply samplePlatform s with
  | .ok (some s') => s'
  | _ => s

/-- The reply row of a store that has one. -/
def sampleRow (s : Store) : Reply := s.reply.getD sampleReply

/-- A review with no reply. -/
def sampleUnanswered : Store := { sampleStore with reply := none }

/-- An adopted suggestion. -/
def sampleAdopted : Store := sampleAfter sampleUnanswered (.acceptSuggestedDraft 1 sampleText 7)

/-- The suggestion after its submission. -/
def sampleSubmitted : Store := sampleAfter sampleAdopted (.submit (sampleRow sampleAdopted) true)

/-- The suggestion after its approval. -/
def sampleApproved : Store :=
  sampleAfter sampleSubmitted
    (.authorize (sampleRow sampleSubmitted) sampleIntent true true true 0)

/-- The claim of the approved suggestion, whose binding is current. -/
def sampleAiClaim : StoreEvent :=
  .claim sampleJob (sampleRow sampleApproved) sampleStore.review (sampleRow sampleApproved)
    { sampleEnvironment with bindingIsCurrent := true }

/-- The suggestion after its claim. -/
def sampleClaimed : Store := sampleAfter sampleApproved sampleAiClaim

/-- The suggestion after a failure that may be tried again. -/
def sampleFailed : Store :=
  sampleAfter sampleClaimed (.terminal (sampleRow sampleClaimed) .retryable none)

/-- A state some run of the sample platform reaches. -/
def SampleReached (s : Store) : Prop := ∃ h, Run (replySystem samplePlatform StartsPlaced) h s

/-- A write that carries the present row leads from one reached state to the next. -/
theorem SampleReached.next {e : StoreEvent} (reached : SampleReached s)
    (present : s.reply = some row) (carries : e.snapshot? = some row) (notClaim : e.actor ≠ .worker)
    (commits : e.apply samplePlatform s = .ok (some s')) : SampleReached s' := by
  obtain ⟨h, r⟩ := reached
  exact ⟨_, r.next ⟨StoreEvent.admissible_of_current (Or.inl rfl) present carries notClaim,
    commits⟩⟩

/-- The failed suggestion is reached from a review with no reply. -/
theorem sampleFailed_reached : SampleReached sampleFailed := by
  have hadopted : SampleReached sampleAdopted := by
    have hstart : StartsPlaced sampleUnanswered := ⟨rfl, rfl, fun row hrow ↦ by cases hrow⟩
    refine ⟨_, Run.next (e := .acceptSuggestedDraft 1 sampleText 7) (.start hstart)
      ⟨⟨?_, ?_, ?_, ?_, ?_⟩, by rfl⟩⟩
    · rintro snapshot ⟨⟩
    · rintro newId ⟨⟩ p row (rfl | ⟨m, hm, -⟩) hrow
      · cases hrow
      · cases hm
    · rintro job original review snapshot environment ⟨⟩
    · rintro observation ⟨⟩
    · rintro sourceEpoch expectedSourceRevision state ⟨⟩
  have hsubmitted : SampleReached sampleSubmitted :=
    hadopted.next (e := .submit (sampleRow sampleAdopted) true) rfl rfl (by decide) (by rfl)
  have happroved : SampleReached sampleApproved :=
    hsubmitted.next (e := .authorize (sampleRow sampleSubmitted) sampleIntent true true true 0)
      rfl rfl (by decide) (by rfl)
  have hclaimed : SampleReached sampleClaimed := by
    obtain ⟨h, r⟩ := happroved
    refine ⟨_, r.next (e := sampleAiClaim) ⟨⟨?_, ?_, ?_, ?_, ?_⟩, by rfl⟩⟩
    · rintro snapshot ⟨⟩
      exact ⟨sampleApproved, Or.inl rfl, rfl⟩
    · rintro newId ⟨⟩
    · rintro job original review snapshot environment ⟨⟩
      exact ⟨⟨sampleApproved, Or.inl rfl, rfl⟩, ⟨sampleApproved, Or.inl rfl, rfl⟩, by rfl,
        Or.inl rfl⟩
    · rintro observation ⟨⟩
    · rintro sourceEpoch expectedSourceRevision state ⟨⟩
  exact hclaimed.next (e := .terminal (sampleRow sampleClaimed) .retryable none) rfl rfl
    (by decide) (by rfl)

end Sample

end ReputationKey.Review
