import ReputationKey.Review.StoreSpec

/-!
# The source fence as moves

A new review source, erased content and a restore each make a sequence of moves. The publications
they cancel and the replies they take back are read off the row they lock, not off a snapshot.
-/

namespace ReputationKey.Review

variable {platform : Platform} {actor : Actor} {s s' : Store} {row : Reply}

/-- Closing the current attempt selects nothing in a cycle nobody claimed. -/
theorem supersedeCurrentAttempt_writeReply (s : Store) (row new : Reply) :
    ∃ selects, ({ supersedeCurrentAttempt s row with
          reply := some (applyReplyTrigger row new) } : Store) =
        (s.writeReply row new).setAttempts selects (PublicationAttempt.settle .superseded) ∧
      ((∀ a, selects a = a.isCurrentOf row) ∨
        (row.publicationAttempts = 0 ∧ selects = fun _ ↦ false)) := by
  unfold supersedeCurrentAttempt
  split
  · next hunclaimed =>
      refine ⟨fun _ ↦ false, ?_, Or.inr ⟨Nat.lt_one_iff.1 hunclaimed, rfl⟩⟩
      rw [Store.setAttempts_false]
      rfl
  · exact ⟨PublicationAttempt.isCurrentOf row, rfl, Or.inl fun _ ↦ rfl⟩

/-- Cancelling an open or unanswered publication with its current attempt is one move. -/
theorem cancelWithAttempt_moves (hrow : s.reply = some row)
    (read : isUndispatchedOpenCycle row ∨
      awaitsOutcome row.publicationState row.publicationLastErrorClass) :
    StoreMoves platform actor s
      { supersedeCurrentAttempt s row with
        reply := some (applyReplyTrigger row (cancelledBySource row)) } := by
  obtain ⟨selects, heq, hselects⟩ :=
    supersedeCurrentAttempt_writeReply s row (cancelledBySource row)
  rw [heq]
  refine .single (.publication row .draft (some .cancelled) none none _ _ hrow
    (.cancelled read) ?_)
  rcases hselects with hselects | ⟨hzero, rfl⟩
  · exact settlesAttempts_current hselects (fun _ ↦ rfl) fun _ hopen ↦ by cases hopen
  · exact settlesAttempts_unclaimed (fun _ ↦ rfl) hzero

/-- Publication work a changed source may cancel is open or unanswered. -/
theorem isSourceActive_read (h : isSourceActive row) :
    isUndispatchedOpenCycle row ∨
      awaitsOutcome row.publicationState row.publicationLastErrorClass := by
  unfold isSourceActive at h
  cases hstate : row.publicationState with
  | none => simp [hstate] at h
  | some state =>
      cases state <;>
        simp_all [sourceActivePublicationStates, isUndispatchedOpenCycle, awaitsOutcome,
          isUncertainPublicationState]

/-- Superseding stale publications is a cancellation and a withdrawal, or nothing. -/
theorem supersedeStaleReviewPublications_moves (s : Store) :
    StoreMoves platform actor s (supersedeStaleReviewPublications s) := by
  unfold supersedeStaleReviewPublications
  split
  · exact .refl
  · next row hrow =>
      split
      · next hstale =>
          simp only [Bool.and_eq_true] at hstale
          refine Relation.ReflTransGen.trans ?_ (withdrawAiDrafts_moves _)
          exact (cancelWithAttempt_moves hrow (isSourceActive_read hstale.1)).record _
      · exact .refl

/-- A guest edit closes the attempt of exactly the unanswered replies it takes back. -/
theorem takenBackByGuestEdit_awaits {takenBack : TakenBackByGuestEdit}
    (h : takenBackByGuestEdit row = some takenBack) :
    awaitsOutcome row.publicationState row.publicationLastErrorClass =
        takenBack.supersedesAttempt ∧
      awaitsOutcome takenBack.publicationState none = false := by
  unfold takenBackByGuestEdit at h
  split at h
  · cases h
  · split at h
    · next happrove =>
        cases h
        rcases (replyCommandMayStart_approve happrove).2 with hstate | hstate <;>
          simp [hstate, awaitsOutcome, isUncertainPublicationState]
    · split at h
      · cases h
      · next hretry =>
          cases h
          have hstate : row.publicationState = some .terminal := by
            simp [isAtCommandStart, replyCommandStarts] at hretry
            exact hretry.2
          simp [hstate, awaitsOutcome, isUncertainPublicationState, endedWithoutAnAnswer]

/-- Taking a reply back is one publication move, or nothing. -/
theorem takeBackReplyPutForwardBeforeGuestEdit_moves (s : Store) :
    StoreMoves platform actor s (takeBackReplyPutForwardBeforeGuestEdit s) := by
  unfold takeBackReplyPutForwardBeforeGuestEdit
  split
  · exact .refl
  · next row hrow =>
      split
      · exact .refl
      · next takenBack htaken =>
          refine StoreMoves.record ?_ _
          obtain ⟨hawaits, -⟩ := takenBackByGuestEdit_awaits htaken
          split
          · obtain ⟨selects, heq, hselects⟩ := supersedeCurrentAttempt_writeReply s row
              (row.withPublication takenBack.status takenBack.publicationState none none)
            have hsame : supersedeCurrentAttempt
                { s with
                  reply := some (applyReplyTrigger row
                    (row.withPublication takenBack.status takenBack.publicationState none none)) }
                row =
              { supersedeCurrentAttempt s row with
                reply := some (applyReplyTrigger row
                  (row.withPublication takenBack.status takenBack.publicationState none none)) } :=
              by
              unfold supersedeCurrentAttempt
              split <;> rfl
            refine .single ?_
            have hmove : StoreMove platform actor s _ := .publication row takenBack.status
              takenBack.publicationState none none selects
              (PublicationAttempt.settle .superseded) hrow (.takenBack takenBack htaken)
              (hselects.elim
                (fun hcurrent ↦ settlesAttempts_current hcurrent (fun _ ↦ rfl) fun _ hopen ↦ by
                  cases hopen)
                fun hzero ↦ hzero.2 ▸ settlesAttempts_unclaimed (fun _ ↦ rfl) hzero.1)
            rw [← heq, ← hsame] at hmove
            exact hmove
          · next hkeeps =>
              have hmove : StoreMove platform actor s _ := .publication row takenBack.status
                takenBack.publicationState none none (fun _ ↦ false)
                (PublicationAttempt.settle .superseded) hrow (.takenBack takenBack htaken)
                (settlesAttempts_untouched fun h ↦ absurd (hawaits ▸ h) hkeeps)
              rw [Store.setAttempts_false] at hmove
              exact .single hmove

/-- An applied review observation purges, cancels and takes back, each by moves of its own. -/
theorem applyReviewObservation_moves (s : Store) (observation : AppliedReviewObservation) :
    StoreMoves platform .source s (applyReviewObservation s observation) := by
  unfold applyReviewObservation
  have hobserved : ∀ review : ReviewRow, StoreMoves platform .source s { s with review := review } :=
    fun review ↦ .single (.reviewed review rfl)
  have hpurge : ∀ (t : Store) (moved passed : Bool),
      StoreMoves platform .source t (purgeWithObservation t moved passed) := by
    intro t moved passed
    unfold purgeWithObservation
    split
    · exact withdrawAiDrafts_moves t
    · exact .refl
  split
  · exact (((hobserved _).trans (hpurge _ _ _)).trans
      (supersedeStaleReviewPublications_moves _)).trans
        (takeBackReplyPutForwardBeforeGuestEdit_moves _)
  · exact ((hobserved _).trans (hpurge _ _ _)).trans (supersedeStaleReviewPublications_moves _)

/-- Erasing source content withdraws AI text and touches no other part of the reply. -/
theorem eraseReviewSourceContent_moves (s : Store) (sourceEpoch expectedSourceRevision : Nat)
    (state : ContentState) :
    StoreMoves platform .source s
      (eraseReviewSourceContent s sourceEpoch expectedSourceRevision state) := by
  unfold eraseReviewSourceContent
  split
  · have hreview : StoreMoves platform .source s
        { s with review := { s.review with sourceContentState := state } } :=
      .single (.reviewed _ rfl)
    refine (hreview.trans (withdrawAiDrafts_moves _)).tail (.observed _ (Or.inr ⟨rfl, ?_⟩) ?_)
    · rw [List.map_map]
      refine List.map_congr_left fun row _ ↦ ?_
      simp only [Function.comp]
      split <;> rfl
    · rw [List.map_map]
      refine (List.map_congr_left fun row _ ↦ ?_) ▸ List.suffix_rfl
      simp only [Function.comp]
      split <;> rfl
  · exact .refl

/-- A restore cancels an undispatched cycle, leaves a claimed one unanswered, and keeps the rest. -/
theorem applyRestoreFence_moves (s : Store) : StoreMoves platform actor s (applyRestoreFence s) := by
  unfold applyRestoreFence
  cases hrow : s.reply with
  | none =>
      have hsame : ({ s with reply := none } : Store) = s := by rw [← hrow]
      simp only [Option.map_none, hsame]
      exact .refl
  | some row =>
      simp only [Option.map_some]
      have hmove : ∀ status state errorClass dueAt,
          PublicationChange row status state errorClass →
            (awaitsOutcome row.publicationState row.publicationLastErrorClass →
              awaitsOutcome state errorClass) →
              StoreMoves platform actor s
                (s.writeReply row (row.withPublication status state errorClass dueAt)) := by
        intro status state errorClass dueAt hchange hawaits
        have hmove : StoreMove platform actor s _ := .publication row status state errorClass
          dueAt (fun _ ↦ false) (PublicationAttempt.settle .superseded) hrow hchange
          (settlesAttempts_untouched hawaits)
        rw [Store.setAttempts_false] at hmove
        exact .single hmove
      unfold restoreFencedReply
      split
      · next hopen =>
          refine hmove _ _ _ _ (.restoreCancelled hopen) fun h ↦ ?_
          simp only [isUndispatchedOpenCycle, Bool.or_eq_true, beq_iff_eq] at hopen
          rcases hopen with hopen | hopen <;>
            simp [awaitsOutcome, isUncertainPublicationState, hopen] at h
      · split
        · next hsending => exact hmove _ _ _ _ (.restoreUncertain hsending) fun _ ↦ rfl
        · exact hmove _ _ _ row.reconcileDueAt .deferred id

end ReputationKey.Review
