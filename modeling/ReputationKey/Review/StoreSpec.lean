import ReputationKey.Review.StoreMove

/-!
# Every transaction is a sequence of moves

One inversion lemma for each transaction of the command store, the observation store and the
source fence: when it commits, it made the moves its code says and no others.
-/

namespace ReputationKey.Review

variable {platform : Platform} {actor : Actor} {s s' : Store} {snapshot : Reply}

/-- The row a guarded publication write matched, as the write left it. -/
theorem guardedPublicationUpdate_write {saved : Reply} {expectedStatus : ReplyStatus}
    {allowedStates : List PersistedPublicationState} {set : Reply → Reply}
    (h : guardedPublicationUpdate s snapshot expectedStatus allowedStates set =
      some (s', saved)) :
    ∃ row, s.reply = some row ∧ row.status = expectedStatus ∧
      row.publicationState = snapshot.publicationState ∧
      (∃ state ∈ allowedStates, row.publicationState = some state) ∧
      publicationSnapshotMatches row snapshot expectedStatus ∧
      saved = applyReplyTrigger row (set row) ∧ s' = s.writeReply row (set row) := by
  obtain ⟨row, hrow, ⟨state, hmem, hstate⟩, hmatch, rfl, rfl⟩ :=
    guardedPublicationUpdate_eq_some h
  have hfields := (publicationSnapshotMatches_iff row snapshot expectedStatus).1 hmatch
  exact ⟨row, hrow, hfields.2.1, hfields.2.2.2.2.1, ⟨state, hmem, hfields.2.2.2.2.1.trans hstate⟩,
    hmatch, rfl, rfl⟩

/-- A committed publication transition read an allowed state and settled the attempts. -/
theorem publicationTransition_eq_ok {event : PublicationStateEvent}
    {allowedStates : List PersistedPublicationState}
    {set : PersistedPublicationState → Reply → Reply}
    {afterWrite : Store → Reply → Except ReviewError Store} {fact : Option Fact}
    (h : publicationTransition s snapshot event allowedStates set afterWrite fact =
      .ok (some s')) :
    ∃ target row settled, nextPublicationState row.publicationState event = some target ∧
      s.reply = some row ∧ row.status = snapshot.status ∧
      (∃ state ∈ allowedStates, row.publicationState = some state) ∧
      publicationSnapshotMatches row snapshot snapshot.status ∧
      afterWrite (s.writeReply row (set target row)) (applyReplyTrigger row (set target row)) =
        .ok settled ∧
      s' = settled.recordOptional fact := by
  unfold publicationTransition at h
  split at h
  · cases h
  · next target htarget =>
      split at h
      · cases h
      · next written saved hguard =>
          obtain ⟨row, hrow, hstatus, hstate, hallowed, hmatch, rfl, rfl⟩ :=
            guardedPublicationUpdate_write hguard
          split at h
          · cases h
          · next settled hsettled =>
              cases h
              exact ⟨target, row, settled, hstate ▸ htarget, hrow, hstatus, hallowed, hmatch,
                hsettled, rfl⟩

/-- An acknowledged write is one publication move. -/
theorem markProviderOutcomePendingObservation_moves {now : Int}
    (h : markProviderOutcomePendingObservation s snapshot now = .ok (some s')) :
    StoreMoves platform actor s s' := by
  obtain ⟨target, row, settled, htarget, hrow, -, -, -, hsettled, rfl⟩ :=
    publicationTransition_eq_ok h
  obtain ⟨hread, rfl⟩ := (nextPublicationState_providerAccepted _ _).1 htarget
  obtain ⟨-, rfl⟩ := updateCurrentAttempt_eq_ok hsettled
  refine StoreMoves.recordOptional (Relation.ReflTransGen.single ?_) none
  exact .publication row row.status (some .pendingObservation) row.publicationLastErrorClass
    (some (now + providerObservationReconcileDelayMs)) _ _ hrow (.accepted hread)
    (settlesAttempts_current (isCurrentIn_none _) (fun _ ↦ rfl) fun _ _ ↦ rfl)

/-- A terminal failure is one publication move. -/
theorem markPublicationTerminal_moves {errorClass : PublicationFailureClass}
    {fact : Option Fact}
    (h : markPublicationTerminal s snapshot errorClass fact = .ok (some s')) :
    StoreMoves platform actor s s' := by
  obtain ⟨target, row, settled, htarget, hrow, -, ⟨state, hmem, hstate⟩, -, hsettled, rfl⟩ :=
    publicationTransition_eq_ok h
  obtain rfl := nextPublicationState_failTerminal _ _ htarget
  have hread : row.publicationState = some .requested ∨
      row.publicationState = some .authorized ∨ row.publicationState = some .sending ∨
        row.publicationState = some .ambiguous := by
    rw [hstate]
    simpa using hmem
  refine StoreMoves.recordOptional (Relation.ReflTransGen.single ?_) fact
  split at hsettled
  · next hunclaimed =>
      cases hsettled
      have hzero : row.publicationAttempts = 0 := Nat.lt_one_iff.1 hunclaimed
      have hmove : StoreMove platform actor s _ := .publication row .publishFailed
        (some .terminal) (some errorClass) none (fun _ ↦ false)
        (PublicationAttempt.settle .superseded) hrow (.failed errorClass hread)
        (settlesAttempts_unclaimed (fun _ ↦ rfl) hzero)
      rwa [Store.setAttempts_false] at hmove
  · obtain ⟨-, rfl⟩ := updateCurrentAttempt_eq_ok hsettled
    refine .publication row .publishFailed (some .terminal) (some errorClass) none _ _ hrow
      (.failed errorClass hread)
      (settlesAttempts_current (isCurrentIn_none _) (fun _ ↦ rfl) fun a ha ↦ ?_)
    cases errorClass <;> simp_all [PublicationAttempt.setOutcome, terminalAttemptOutcome,
      isOpenAttemptOutcome, awaitsOutcome]

/-- An ambiguous outcome is one publication move. -/
theorem markPublicationAmbiguous_moves {dueAt : Option Int} {now : Int} {fact : Option Fact}
    (h : markPublicationAmbiguous s snapshot dueAt now fact = .ok (some s')) :
    StoreMoves platform actor s s' := by
  unfold markPublicationAmbiguous at h
  split at h
  · cases h
  · obtain ⟨target, row, settled, htarget, hrow, -, ⟨state, hmem, hstate⟩, -, hsettled, rfl⟩ :=
      publicationTransition_eq_ok h
    obtain rfl := nextPublicationState_failAmbiguous _ _ htarget
    obtain ⟨-, rfl⟩ := updateCurrentAttempt_eq_ok hsettled
    have hread : row.publicationState = some .sending ∨
        row.publicationState = some .pendingObservation := by
      rw [hstate]
      simpa using hmem
    refine StoreMoves.recordOptional (Relation.ReflTransGen.single ?_) fact
    exact .publication row .publishFailed (some .ambiguous) (some .ambiguous) _ _ _ hrow
      (.uncertain hread) (settlesAttempts_current (isCurrentIn_none _) (fun _ ↦ rfl) fun _ _ ↦ rfl)

/-- A requeue is one publication move. -/
theorem markPublicationRetryQueued_moves {now : Int}
    (h : markPublicationRetryQueued s snapshot now = .ok (some s')) :
    StoreMoves platform actor s s' := by
  unfold markPublicationRetryQueued at h
  split at h
  · cases h
  · next target htarget =>
      obtain ⟨-, rfl⟩ := (nextPublicationState_requeue _ _).1 htarget
      split at h
      · cases h
      · next written saved hguard =>
          obtain ⟨row, hrow, hstatus, -, ⟨state, hmem, hstate⟩, -, rfl, rfl⟩ :=
            guardedPublicationUpdate_write hguard
          obtain rfl : state = .sending := by simpa using hmem
          split at h
          · cases h
          · next settled hsettled =>
              cases h
              obtain ⟨-, rfl⟩ := updateCurrentAttempt_eq_ok hsettled
              have hmove : StoreMove platform actor s _ := .publication row row.status
                (some .authorized) row.publicationLastErrorClass
                (some (now + publicationRecoveryReconcileDelayMs))
                (PublicationAttempt.isCurrentIn row none)
                (PublicationAttempt.setOutcome .retryableFailure) hrow
                (hstatus ▸ .requeued hstatus hstate)
                (settlesAttempts_current (isCurrentIn_none _) (fun _ ↦ rfl)
                  fun _ hopen ↦ by cases hopen)
              exact Relation.ReflTransGen.single hmove

/-- The rows a cancellation leaves, whatever it read. -/
theorem cancelledPublication_eq_some {cancellation : Reply → Reply}
    (h : cancelledPublication snapshot = some cancellation) :
    cancellation = fun row ↦ row.withPublication .draft (some .cancelled) none none := by
  unfold cancelledPublication at h
  split at h
  · exact (Option.some.inj h).symm
  · cases h

/-- Closing the attempt of a cancelled cycle is one publication move with the cancellation. -/
theorem supersedeCancelledAttempt_moves {row : Reply} (hrow : s.reply = some row)
    (read : isUndispatchedOpenCycle row ∨
      awaitsOutcome row.publicationState row.publicationLastErrorClass)
    (h : supersedeCancelledAttempt
      (s.writeReply row (row.withPublication .draft (some .cancelled) none none))
      (applyReplyTrigger row (row.withPublication .draft (some .cancelled) none none)) =
        .ok s') :
    StoreMoves platform actor s s' := by
  unfold supersedeCancelledAttempt at h
  refine Relation.ReflTransGen.single ?_
  split at h
  · obtain ⟨-, rfl⟩ := updateCurrentAttempt_eq_ok h
    exact .publication row .draft (some .cancelled) none none _ _ hrow (.cancelled read)
      (settlesAttempts_current (isCurrentIn_none _) (fun _ ↦ rfl) fun _ hopen ↦ by cases hopen)
  · next hunclaimed =>
      cases h
      have hzero : row.publicationAttempts = 0 := Nat.eq_zero_of_not_pos hunclaimed
      have hmove : StoreMove platform actor s _ := .publication row .draft (some .cancelled)
        none none (fun _ ↦ false) (PublicationAttempt.settle .superseded) hrow
        (.cancelled read) (settlesAttempts_unclaimed (fun _ ↦ rfl) hzero)
      rwa [Store.setAttempts_false] at hmove

/-- A policy or disconnect cancellation is one publication move. -/
theorem cancelPublication_moves {cause : CancellationCause}
    (h : cancelPublication s snapshot cause = .ok (some s')) : StoreMoves platform actor s s' := by
  unfold cancelPublication at h
  split at h
  · cases h
  · next cancellation hcancel =>
      obtain rfl := cancelledPublication_eq_some hcancel
      split at h
      · cases h
      · next written cancelled hguard =>
          obtain ⟨row, hrow, -, -, ⟨state, hmem, hstate⟩, -, rfl, rfl⟩ :=
            guardedPublicationUpdate_write hguard
          split at h
          · cases h
          · next settled hsettled =>
              cases h
              refine StoreMoves.record (supersedeCancelledAttempt_moves hrow ?_ hsettled) _
              simp only [List.mem_cons, List.not_mem_nil, or_false] at hmem
              rcases hmem with rfl | rfl | rfl | rfl <;>
                simp [isUndispatchedOpenCycle, awaitsOutcome, isUncertainPublicationState, hstate]

/-- A withdrawal of AI text deletes a reply no manager confirmed, empties one that was not
dispatched, or leaves the rows alone. -/
theorem withdrawAiDrafts_moves (s : Store) : StoreMoves platform actor s (withdrawAiDrafts s) := by
  unfold withdrawAiDrafts
  split
  · exact .refl
  · next row hrow =>
      split
      · exact .refl
      · next hai =>
          have hisAi : row.aiGenerated := by simpa using hai
          split
          · next hnone =>
              have hdelete : StoreMoves platform actor s { s with reply := none } :=
                .single (.delete row hrow hnone)
              split
              · exact hdelete.record _
              · exact hdelete
          · split
            · next hopen =>
                refine StoreMoves.record (.single ?_) _
                exact .withdraw row hrow hisAi (Or.inl hopen) _ fun _ _ hsel ↦ hsel
            · split
              · next hback =>
                  have hmove : StoreMove platform actor s _ := .withdraw row hrow hisAi
                    (Or.inr hback) (fun _ ↦ false) fun _ _ hsel ↦ by cases hsel
                  rw [Store.setAttempts_false] at hmove
                  split
                  · exact StoreMoves.record (.single hmove) _
                  · exact .single hmove
              · exact .refl

/-- Ending a cycle a claim may not take is a cancellation, with a withdrawal of AI text. -/
theorem cancelUnclaimablePublication_moves {cause : CancellationCause}
    (h : cancelUnclaimablePublication s snapshot cause = .ok (some s')) :
    StoreMoves platform actor s s' := by
  unfold cancelUnclaimablePublication at h
  split at h
  · cases h
  · next cancellation hcancel =>
      obtain rfl := cancelledPublication_eq_some hcancel
      split at h
      · cases h
      · next written cancelled hguard =>
          obtain ⟨row, hrow, -, -, ⟨state, hmem, hstate⟩, -, rfl, rfl⟩ :=
            guardedPublicationUpdate_write hguard
          obtain rfl : state = .authorized := by simpa using hmem
          split at h
          · cases h
          · next settled hsettled =>
              cases h
              have hread : isUndispatchedOpenCycle row := by
                simp [isUndispatchedOpenCycle, hstate]
              have hcancelled : StoreMoves platform actor s _ :=
                StoreMoves.record (supersedeCancelledAttempt_moves hrow (Or.inl hread) hsettled)
                  (.publicationCancelled cause)
              split
              · exact hcancelled.trans (withdrawAiDrafts_moves _)
              · exact hcancelled

/-- The attempt row a claim inserts. -/
def claimedAttempt (s : Store) (row : Reply) (attempt : PublicationAttemptStart)
    (authorization : PublicationAuthorization) (now : Int) : PublicationAttempt :=
  { replyId := row.id
    publicationCycle := row.publicationCycle
    attemptNumber := row.publicationAttempts + 1
    providerOperationKey := attempt.providerOperationKey
    propertyId := attempt.propertyId
    sourceEpoch := authorization.sourceEpoch
    materialReviewRevision := authorization.materialReviewRevision
    replyStateRevision := authorization.replyStateRevision
    baseObservationRevision := (s.head.map (·.observationRevision)).getD 0
    expectedReplyDigest := authorization.expectedReplyDigest
    outcome := .sending
    confirmedObservationRevision := none
    createdAt := now }

/-- What a successful claim read and wrote. -/
structure ClaimSpec (platform : Platform) (s : Store) (snapshot : Reply)
    (attempt : PublicationAttemptStart) (environment : ClaimEnvironment) (s' : Store)
    (saved row : Reply) (authorization : PublicationAuthorization) : Prop where
  present : s.reply = some row
  isSnapshot : publicationSnapshotMatches row snapshot .approved
  read : row.publicationState = some .authorized
  property : s.review.propertyId = attempt.propertyId
  authorized :
    readCurrentPublicationAuthorization platform s snapshot attempt = some authorization
  head : (s.head.map (·.observationRevision)).getD 0 = authorization.baseObservationRevision
  freshKey : ∀ a ∈ s.attempts, a.providerOperationKey ≠ attempt.providerOperationKey
  fresh : ∀ a ∈ s.attempts, ¬ a.isCurrentOf (claimedReply row environment.now)
  returned : saved = applyReplyTrigger row (claimedReply row environment.now)
  written : s' =
    { s.writeReply row (claimedReply row environment.now) with
      attempts := claimedAttempt s row attempt authorization environment.now :: s.attempts }

/-- A claim that succeeded passed every gate and took the exact row it read. -/
theorem markPublicationSending_claimed {attempt : PublicationAttemptStart}
    {environment : ClaimEnvironment} {saved : Reply}
    (h : markPublicationSending platform s snapshot attempt environment =
      .ok (.claimed s' saved)) :
    ∃ row authorization,
      ClaimSpec platform s snapshot attempt environment s' saved row authorization := by
  unfold markPublicationSending at h
  split at h
  · cases h
  · split at h
    · cases h
    · split at h
      · cases h
      · next hproperty =>
          split at h
          · unfold cancelInsteadOfClaiming at h
            split at h <;> cases h
          · split at h
            · cases h
            · next authorization hauthorization =>
                split at h
                · unfold cancelInsteadOfClaiming at h
                  split at h <;> cases h
                · split at h
                  · cases h
                  · next hkey =>
                      split at h
                      · cases h
                      · next hhead =>
                          unfold claimAuthorizedCycle at h
                          split at h
                          · cases h
                          · next written claimed hguard =>
                              obtain ⟨row, hrow, -, -, ⟨state, hmem, hstate⟩, hmatch, rfl, rfl⟩ :=
                                guardedPublicationUpdate_write hguard
                              obtain rfl : state = .authorized := by simpa using hmem
                              have hfields :=
                                (publicationSnapshotMatches_iff row snapshot .approved).1 hmatch
                              split at h
                              · cases h
                              · next hfresh =>
                                  cases h
                                  refine ⟨row, authorization, hrow, hmatch, hstate,
                                    not_not.1 hproperty, hauthorization, not_not.1 hhead,
                                    ?_, ?_, rfl, ?_⟩
                                  · simpa using hkey
                                  · simpa [Store.writeReply, claimedReply] using hfresh
                                  · have hid : snapshot.id = row.id := hfields.1.symm
                                    have hcycle : snapshot.publicationCycle =
                                        row.publicationCycle := hfields.2.2.2.1.symm
                                    simp only [hid, hcycle]
                                    rfl

/-- A claim that cancelled the cycle instead made the moves of that cancellation. -/
theorem markPublicationSending_cancelled {attempt : PublicationAttemptStart}
    {environment : ClaimEnvironment}
    (h : markPublicationSending platform s snapshot attempt environment = .ok (.cancelled s')) :
    StoreMoves platform actor s s' := by
  have hcancel : ∀ cause,
      cancelInsteadOfClaiming s snapshot cause = .ok (.cancelled s') →
        StoreMoves platform actor s s' := by
    intro cause hc
    unfold cancelInsteadOfClaiming at hc
    split at hc
    · cases hc
    · cases hc
    · next cancelled hcancelled =>
        cases hc
        exact cancelUnclaimablePublication_moves hcancelled
  unfold markPublicationSending at h
  split at h
  · cases h
  · split at h
    · cases h
    · split at h
      · cases h
      · split at h
        · exact hcancel _ h
        · split at h
          · cases h
          · split at h
            · exact hcancel _ h
            · split at h
              · cases h
              · split at h
                · cases h
                · unfold claimAuthorizedCycle at h
                  split at h
                  · cases h
                  · split at h <;> cases h

/-- A successful claim is one claim move. -/
theorem ClaimSpec.move {attempt : PublicationAttemptStart} {environment : ClaimEnvironment}
    {saved row : Reply} {authorization : PublicationAuthorization}
    (spec : ClaimSpec platform s snapshot attempt environment s' saved row authorization) :
    StoreMove platform .worker s s' := by
  have hfields := (publicationSnapshotMatches_iff row snapshot .approved).1 spec.isSnapshot
  rw [spec.written]
  exact .claim row _ environment.now spec.present rfl hfields.2.1 spec.read
    (by simp [PublicationAttempt.isCurrentOf, claimedAttempt, claimedReply]) rfl spec.fresh

/-- The row a compare-and-set over an uncertain attempt matched, as the write left it. -/
theorem casUncertainAttempt_eq_some {uncertain : UncertainSendSnapshot} {set : Reply → Reply}
    {saved : Reply} (h : casUncertainAttempt s snapshot uncertain set = some (s', saved)) :
    ∃ row, s.reply = some row ∧ uncertainAttemptWhere row snapshot uncertain ∧
      saved = applyReplyTrigger row (set row) ∧ s' = s.writeReply row (set row) := by
  unfold casUncertainAttempt at h
  split at h
  · cases h
  · next row hrow =>
      split at h
      · next hwhere =>
          cases h
          exact ⟨row, hrow, hwhere, rfl, rfl⟩
      · cases h

/-- Moving only the due time is a publication move that changes no attempt. -/
theorem defer_moves {row : Reply} (hrow : s.reply = some row) (dueAt : Int) :
    StoreMoves platform actor s (s.writeReply row (setReconcileDueAt dueAt row)) := by
  have hmove : StoreMove platform actor s _ := .publication row row.status row.publicationState
    row.publicationLastErrorClass (some dueAt) (fun _ ↦ false)
    (PublicationAttempt.settle .superseded) hrow .deferred (settlesAttempts_untouched id)
  rw [Store.setAttempts_false] at hmove
  exact .single hmove

/-- A deferred pending observation moves only its due time. -/
theorem deferPendingPublicationObservation_moves {now : Int}
    (h : deferPendingPublicationObservation s snapshot now = .ok (some s')) :
    StoreMoves platform actor s s' := by
  obtain ⟨⟨written, saved⟩, hguard, rfl⟩ := Option.map_eq_some_iff.1 (Except.ok.inj h)
  obtain ⟨row, hrow, -, -, -, -, -, hwritten⟩ := guardedPublicationUpdate_write hguard
  exact hwritten ▸ defer_moves hrow _

/-- A deferred uncertain send moves only its due time. -/
theorem deferUncertain_moves {allowed : List UncertainSendSnapshot} {dueAt now : Int}
    (h : deferUncertain allowed s snapshot dueAt now = .ok (some s')) :
    StoreMoves platform actor s s' := by
  unfold deferUncertain at h
  split at h
  · cases h
  · split at h
    · cases h
    · obtain ⟨⟨written, saved⟩, hcas, rfl⟩ := Option.map_eq_some_iff.1 (Except.ok.inj h)
      obtain ⟨row, hrow, -, -, hwritten⟩ := casUncertainAttempt_eq_some hcas
      exact hwritten ▸ defer_moves hrow _

/-- A row an uncertain state describes awaits its outcome. -/
theorem awaitsOutcome_of_settleable {uncertain : UncertainSendSnapshot} {row : Reply}
    (hmem : uncertain ∈ neverDispatchedSettleable)
    (hwhere : uncertainAttemptWhere row snapshot uncertain) :
    awaitsOutcome row.publicationState row.publicationLastErrorClass := by
  simp only [uncertainAttemptWhere, Bool.and_eq_true, beq_iff_eq] at hwhere
  simp only [neverDispatchedSettleable, List.mem_cons, List.not_mem_nil, or_false] at hmem
  rcases hmem with rfl | rfl | rfl <;>
    simp_all [awaitsOutcome, isUncertainPublicationState]

/-- What a committed settlement read: the uncertain row, its open attempt row, and no evidence of
a dispatch. -/
structure SettlementSpec (s : Store) (snapshot : Reply)
    (mayHaveDispatched : PublicationAttempt → Bool) (fact : Option Fact) (s' : Store) (row : Reply)
    (attempt : PublicationAttempt) (uncertain : UncertainSendSnapshot) : Prop where
  present : s.reply = some row
  isUncertain : uncertain ∈ neverDispatchedSettleable
  isSnapshot : uncertainAttemptWhere row snapshot uncertain
  inCycle : 1 ≤ row.publicationCycle ∧ 1 ≤ row.publicationAttempts
  found : attempt ∈ s.attempts ∧ attempt.isCurrentIn row (some uncertainAttemptOutcomes)
  undispatched : mayHaveDispatched attempt = false
  written : s' =
    ((s.writeReply row (row.withPublication .publishFailed (some .terminal) (some .retryable)
      none)).setAttempts (PublicationAttempt.isCurrentIn row (some uncertainAttemptOutcomes))
        (PublicationAttempt.setOutcome .retryableFailure)).recordOptional
          (if uncertain.status = .publishFailed then none else fact)

/-- A settlement that committed found its uncertain attempt and no evidence of a dispatch. -/
theorem settleNeverDispatchedAttempt_eq_ok {mayHaveDispatched : PublicationAttempt → Bool}
    {fact : Option Fact}
    (h : settleNeverDispatchedAttempt s snapshot mayHaveDispatched fact = .ok (some s')) :
    ∃ row attempt uncertain,
      SettlementSpec s snapshot mayHaveDispatched fact s' row attempt uncertain := by
  unfold settleNeverDispatchedAttempt at h
  split at h
  · cases h
  · next uncertain huncertain =>
      have hmem : uncertain ∈ neverDispatchedSettleable := List.mem_of_find?_eq_some huncertain
      split at h
      · cases h
      · next hcycle =>
          split at h
          · cases h
          · cases h
          · next attempt hlock =>
              split at h
              · cases h
              · next hdispatched =>
                  split at h
                  · cases h
                  · next written saved hcas =>
                      obtain ⟨row, hrow, hwhere, rfl, rfl⟩ := casUncertainAttempt_eq_some hcas
                      split at h
                      · cases h
                      · next settled hsettled =>
                          cases h
                          obtain ⟨-, rfl⟩ := updateCurrentAttempt_eq_ok hsettled
                          have hpointer : row.id = snapshot.id ∧
                              row.publicationCycle = snapshot.publicationCycle ∧
                                row.publicationAttempts = snapshot.publicationAttempts := by
                            simp only [uncertainAttemptWhere, Bool.and_eq_true,
                              beq_iff_eq] at hwhere
                            exact ⟨hwhere.1.1.1.1.1.1, hwhere.1.1.1.2, hwhere.1.1.2⟩
                          refine ⟨row, attempt, uncertain, hrow, hmem, hwhere, ?_, ?_,
                            by simpa using hdispatched, rfl⟩
                          · rw [hpointer.2.1, hpointer.2.2]
                            omega
                          · unfold lockUncertainAttempt at hlock
                            split at hlock
                            · split at hlock
                              · cases hlock
                              · next found hfound =>
                                  cases hlock
                                  refine ⟨List.mem_of_find?_eq_some hfound, ?_⟩
                                  have hcurrent := List.find?_some hfound
                                  simpa [PublicationAttempt.isCurrentIn,
                                    PublicationAttempt.isCurrentOf, hpointer] using hcurrent
                            · cases hlock

/-- A settlement is one publication move. -/
theorem SettlementSpec.moves {mayHaveDispatched : PublicationAttempt → Bool} {fact : Option Fact}
    {row : Reply} {attempt : PublicationAttempt} {uncertain : UncertainSendSnapshot}
    (spec : SettlementSpec s snapshot mayHaveDispatched fact s' row attempt uncertain) :
    StoreMoves platform actor s s' := by
  rw [spec.written]
  refine StoreMoves.recordOptional (.single ?_) _
  refine .publication row .publishFailed (some .terminal) (some .retryable) none _ _ spec.present
    (.neverDispatched (awaitsOutcome_of_settleable spec.isUncertain spec.isSnapshot))
    ⟨fun _ ↦ rfl, fun a ha hsel ↦ ?_, fun a ha hcurrent hopen ↦ ?_⟩
  · refine ⟨a, ha, ⟨rfl, rfl, rfl⟩, Or.inl ?_⟩
    simp only [PublicationAttempt.isCurrentIn, Bool.and_eq_true] at hsel
    exact hsel.1
  · -- An open current attempt that was not selected stands beside the attempt that was found.
    by_cases hsel : a.isCurrentIn row (some uncertainAttemptOutcomes)
    · rw [if_pos hsel] at hopen
      cases hopen
    · refine Or.inr (Or.inr (Or.inr ⟨attempt, spec.found.1, fun heq ↦ ?_, Or.inl ?_⟩))
      · exact hsel (heq ▸ spec.found.2)
      · have hfound := spec.found.2
        simp only [PublicationAttempt.isCurrentIn, Bool.and_eq_true] at hfound
        exact hfound.1

end ReputationKey.Review
