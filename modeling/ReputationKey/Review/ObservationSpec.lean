import ReputationKey.Review.StoreSpec

/-!
# Observations of the reply on Google as moves

The ways one observation can be recorded: told again, outdated by the head, restated, or applied.
An applied observation appends the next head and then makes the moves of the publication it closes
or confirms. The attempt a read attributes belongs to the cycle of the reply, so the row it settles
is the one the reply points at or one that is still open.
-/

namespace ReputationKey.Review

variable {platform : Platform} {actor : Actor} {s s' : Store} {input : RecordGoogleReplyObservation}

/-- A row written under a predicate that must match. -/
theorem updateReplyOrThrow_eq_ok {selects : Reply → Bool} {set : Reply → Reply} {message : String}
    (h : updateReplyOrThrow s selects set message = .ok s') :
    ∃ row, s.reply = some row ∧ selects row ∧ s' = s.writeReply row (set row) := by
  unfold updateReplyOrThrow at h
  split at h
  · cases h
  · next row hrow =>
      obtain ⟨hreply, hselects⟩ := Option.filter_eq_some_iff.1 hrow
      cases h
      exact ⟨row, hreply, hselects, rfl⟩

/-- The evidence a read loads, when a targeted read still names the current attempt. -/
theorem loadPublicationEvidence_eq_ok {evidence : PublicationEvidence}
    (h : loadPublicationEvidence s input = .ok evidence) :
    input.publicationTarget.all (targetIsCurrent s.reply) ∧
      evidence =
        { internal := s.reply
          attempt := readAttributableAttempt s s.reply input.publicationTarget
          zeroAttemptAuthorization := readZeroAttemptAuthorization s s.reply
          publicationTarget := input.publicationTarget } := by
  unfold loadPublicationEvidence at h
  split at h
  · next hall =>
      cases h
      exact ⟨hall, rfl⟩
  · cases h

/-- An attributable attempt is a row of the reply's own cycle. -/
theorem readAttributableAttempt_eq_some {reply : Reply} {target : Option (Nat × Nat × Nat)}
    {attempt : PublicationAttempt}
    (current : target.all (targetIsCurrent (some reply)))
    (h : readAttributableAttempt s (some reply) target = some attempt) :
    attempt ∈ s.attempts ∧ attempt.replyId = reply.id ∧
      attempt.publicationCycle = reply.publicationCycle := by
  unfold readAttributableAttempt at h
  simp only [Option.bind_some] at h
  split at h
  · next replyId cycle number =>
      have hkey := List.find?_some h
      simp only [Bool.and_eq_true, beq_iff_eq] at hkey
      simp only [targetIsCurrent, Option.all_some, Option.any_some, Bool.and_eq_true,
        beq_iff_eq] at current
      exact ⟨List.mem_of_find?_eq_some h, hkey.1.1.trans current.1.1.symm,
        hkey.1.2.trans current.1.2.symm⟩
  · have hmem := List.argmax_mem (Option.mem_def.2 h)
    simpa using hmem

/-- A targeted read that found no attempt proves that the reply's current attempt has no row. -/
theorem readAttributableAttempt_targeted_eq_none {reply : Reply} {target : Nat × Nat × Nat}
    (current : targetIsCurrent (some reply) target)
    (h : readAttributableAttempt s (some reply) (some target) = none) :
    ∀ a ∈ s.attempts, ¬ a.isCurrentOf reply := by
  intro a ha hcurrent
  simp only [readAttributableAttempt, Option.bind_some, List.find?_eq_none] at h
  refine h a ha ?_
  simp only [targetIsCurrent, Option.any_some, Bool.and_eq_true, beq_iff_eq] at current
  simp only [PublicationAttempt.isCurrentOf, Bool.and_eq_true, beq_iff_eq] at hcurrent
  simp [hcurrent, current]

/-- An external reply cancels the publication and closes its open attempt in one move. -/
theorem supersedeExternalCurrentAttempt_moves {internal : Reply} {attempt : PublicationAttempt}
    (owned : attempt.replyId = internal.id)
    (h : supersedeExternalCurrentAttempt s internal attempt = .ok s') :
    StoreMoves platform actor s s' := by
  unfold supersedeExternalCurrentAttempt at h
  split at h
  · cases h
  · next cancelled hcancelled =>
      simp only at h
      obtain ⟨row, hrow, hwhere, rfl⟩ := updateReplyOrThrow_eq_ok hcancelled
      simp only [Bool.and_eq_true, Bool.or_eq_true, beq_iff_eq] at hwhere
      obtain ⟨⟨⟨⟨hid, hcycle⟩, hnumber⟩, -⟩, hread⟩ := hwhere
      split at h
      · cases h
        refine .single (.publication row .draft (some .cancelled) none none _ _ hrow
          (.cancelled (Or.inr ?_)) ⟨fun _ ↦ rfl, fun a ha hsel ↦ ?_, fun a ha hcurrent hopen ↦ ?_⟩)
        · rcases hread with hread | hread
          · simp [awaitsOutcome, hread]
          · simp only [endedWithoutAnAnswer, Bool.and_eq_true, beq_iff_eq] at hread
            simp [awaitsOutcome, hread]
        · simp only [Bool.and_eq_true, beq_iff_eq] at hsel
          refine ⟨a, ha, ⟨rfl, rfl, rfl⟩, Or.inr hsel.2⟩
        · simp only [PublicationAttempt.isCurrentOf, Bool.and_eq_true, beq_iff_eq] at hcurrent
          have hkey : a.replyId = attempt.replyId ∧ a.publicationCycle = attempt.publicationCycle ∧
              a.attemptNumber = attempt.attemptNumber :=
            ⟨hcurrent.1.1.trans (hid.trans owned.symm), hcurrent.1.2.trans hcycle,
              hcurrent.2.trans hnumber⟩
          simp only [hkey, beq_self_eq_true, Bool.true_and] at hopen
          split at hopen
          · cases hopen
          · next hclosed => exact absurd hopen hclosed
      · cases h

/-- A fresh head cancels an authorization nobody claimed in one move. -/
theorem cancelZeroAttemptAuthorization_moves {internal : Reply} {cycle : Nat}
    (h : cancelZeroAttemptAuthorization s internal cycle = .ok s') :
    StoreMoves platform actor s s' ∧ s'.attempts = s.attempts := by
  obtain ⟨row, hrow, hwhere, rfl⟩ := updateReplyOrThrow_eq_ok h
  simp only [Bool.and_eq_true, beq_iff_eq] at hwhere
  obtain ⟨⟨⟨⟨-, hzero⟩, -⟩, -⟩, hstate⟩ := hwhere
  have hmove : StoreMove platform actor s _ := .publication row .draft (some .cancelled) none
    none (fun _ ↦ false) (PublicationAttempt.settle .superseded) hrow
    (.cancelled (Or.inl (by simp [isUndispatchedOpenCycle, hstate])))
    (settlesAttempts_unclaimed (fun _ ↦ rfl) hzero)
  rw [Store.setAttempts_false] at hmove
  exact ⟨.single hmove, rfl⟩

/-- A targeted read cancels an in-flight reply that has no attempt row in one move. -/
theorem settleLegacyUnattributedAttempt_moves {internal : Reply} {target : Nat × Nat × Nat}
    (current : targetIsCurrent (some internal) target)
    (unattributed : ∀ a ∈ s.attempts, ¬ a.isCurrentOf internal)
    (h : settleLegacyUnattributedAttempt s internal target = .ok s') :
    StoreMoves platform actor s s' ∧ s'.attempts = s.attempts := by
  obtain ⟨row, hrow, hwhere, rfl⟩ := updateReplyOrThrow_eq_ok h
  simp only [Bool.and_eq_true, beq_iff_eq] at hwhere
  obtain ⟨⟨⟨⟨hid, hcycle⟩, hnumber⟩, -⟩, hstate⟩ := hwhere
  have hpointer : PublicationAttempt.isCurrentOf row = PublicationAttempt.isCurrentOf internal := by
    simp only [targetIsCurrent, Option.any_some, Bool.and_eq_true, beq_iff_eq] at current
    funext a
    simp [PublicationAttempt.isCurrentOf, hid, hcycle, hnumber, current]
  have hmove : StoreMove platform actor s _ := .publication row .draft (some .cancelled) none
    none (fun _ ↦ false) (PublicationAttempt.settle .superseded) hrow
    (.cancelled (Or.inr (by simp [awaitsOutcome, hstate])))
    ⟨fun _ ↦ rfl, fun a _ hsel ↦ absurd hsel Bool.false_ne_true,
      fun a ha hcurrent _ ↦ absurd (hpointer ▸ hcurrent) (unattributed a ha)⟩
  rw [Store.setAttempts_false] at hmove
  exact ⟨.single hmove, rfl⟩

/-- A confirmation publishes the reply and confirms the open attempt it attributes. -/
theorem confirmReplyOnGoogle_moves {internal : Reply} {attempt : PublicationAttempt}
    {observationRevision : Nat} (found : attempt ∈ s.attempts)
    (isOpen : isOpenAttemptOutcome attempt.outcome)
    (h : confirmReplyOnGoogle s internal attempt observationRevision = .ok s') :
    StoreMoves platform actor s s' := by
  unfold confirmReplyOnGoogle at h
  split at h
  · cases h
  · next confirmed hconfirmed =>
      obtain ⟨row, hrow, hwhere, rfl⟩ := updateReplyOrThrow_eq_ok hconfirmed
      simp only [Bool.and_eq_true, Bool.or_eq_true, beq_iff_eq] at hwhere
      obtain ⟨⟨-, hstatus⟩, hread⟩ := hwhere
      cases h
      refine .single (.publication row .published (some .published) row.publicationLastErrorClass
        none _ _ hrow (.confirmed hstatus hread)
        ⟨fun _ ↦ rfl, fun a ha hsel ↦ ?_, fun a ha hcurrent hopen ↦ ?_⟩)
      · simp only [Bool.and_eq_true, beq_iff_eq] at hsel
        exact ⟨attempt, found, ⟨hsel.1.1, hsel.1.2, hsel.2⟩, Or.inr isOpen⟩
      · split at hopen
        · cases hopen
        · next hother =>
            refine Or.inr (Or.inr (Or.inr ⟨attempt, found, fun heq ↦ ?_, Or.inr isOpen⟩))
            exact hother (by simp [heq])

/-- A settlement rule that ran, or none. -/
theorem settleWith_eq_ok {rule : Option (Store → Except ReviewError Store)}
    {fact fact' : Option Fact}
    (h : settleWith rule s fact = .ok (s', fact')) :
    (rule = none ∧ s' = s ∧ fact' = fact) ∨
      ∃ run, rule = some run ∧ run s = .ok s' ∧
        fact' = some (.publicationCancelled .providerTruth) := by
  unfold settleWith at h
  split at h
  · cases h
    exact Or.inl ⟨rfl, rfl, rfl⟩
  · next run =>
      split at h
      · cases h
      · next settled hsettled =>
          cases h
          exact Or.inr ⟨run, rfl, hsettled, rfl⟩

/-- What the settlement rules rely on: an attributed attempt is the reply's own, and a targeted
read with no attempt proves that the attempt it names has no row. -/
structure EvidenceSpec (s : Store) (evidence : PublicationEvidence) : Prop where
  owned : ∀ internal attempt, evidence.internal = some internal →
    evidence.attempt = some attempt →
      attempt ∈ s.attempts ∧ attempt.replyId = internal.id ∧
        attempt.publicationCycle = internal.publicationCycle
  unattributed : ∀ internal target, evidence.internal = some internal →
    evidence.publicationTarget = some target → evidence.attempt = none →
      targetIsCurrent (some internal) target ∧ ∀ a ∈ s.attempts, ¬ a.isCurrentOf internal

/-- The evidence an observation loads is what the rules rely on. -/
theorem loadPublicationEvidence_spec {evidence : PublicationEvidence}
    (h : loadPublicationEvidence s input = .ok evidence) : EvidenceSpec s evidence := by
  obtain ⟨hcurrent, rfl⟩ := loadPublicationEvidence_eq_ok h
  refine ⟨fun internal attempt hinternal hattempt ↦ ?_,
    fun internal target hinternal htarget hattempt ↦ ?_⟩
  · simp only at hinternal hattempt
    rw [hinternal] at hcurrent hattempt
    exact readAttributableAttempt_eq_some hcurrent hattempt
  · simp only at hinternal htarget hattempt
    rw [hinternal, htarget] at hcurrent hattempt
    exact ⟨by simpa using hcurrent,
      readAttributableAttempt_targeted_eq_none (by simpa using hcurrent) hattempt⟩

/-- The settlement of an observation is moves; without a supersession it keeps the attempts. -/
theorem settleSupersededPublication_moves {evidence : PublicationEvidence} {supersedes : Bool}
    {fact : Option Fact} (spec : EvidenceSpec s evidence)
    (h : settleSupersededPublication s evidence supersedes = .ok (s', fact)) :
    StoreMoves platform actor s s' ∧ (supersedes = false → s'.attempts = s.attempts) := by
  unfold settleSupersededPublication at h
  split at h
  · cases h
  · next superseded fact₁ hsuperseded =>
      split at h
      · cases h
      · next cancelled fact₂ hcancelled =>
          have hfirst : StoreMoves platform actor s superseded ∧
              (supersedes = false ∨ evidence.attempt = none →
                superseded.attempts = s.attempts) := by
            rcases settleWith_eq_ok hsuperseded with ⟨-, rfl, -⟩ | ⟨run, hrule, hrun, -⟩
            · exact ⟨.refl, fun _ ↦ rfl⟩
            · unfold supersedeRule at hrule
              split at hrule
              · next internal attempt hinternal hattempt =>
                  cases hrule
                  refine ⟨supersedeExternalCurrentAttempt_moves
                    (spec.owned internal attempt hinternal hattempt).2.1 hrun, ?_⟩
                  rintro (hkeeps | hkeeps)
                  · cases hkeeps
                  · rw [hattempt] at hkeeps
                    cases hkeeps
              · cases hrule
          have hsecond : StoreMoves platform actor superseded cancelled ∧
              cancelled.attempts = superseded.attempts := by
            rcases settleWith_eq_ok hcancelled with ⟨-, rfl, -⟩ | ⟨run, hrule, hrun, -⟩
            · exact ⟨.refl, rfl⟩
            · unfold zeroAttemptRule at hrule
              split at hrule
              · cases hrule
                exact cancelZeroAttemptAuthorization_moves hrun
              · cases hrule
          have hthird : StoreMoves platform actor cancelled s' ∧ s'.attempts = cancelled.attempts := by
            rcases settleWith_eq_ok h with ⟨-, rfl, -⟩ | ⟨run, hrule, hrun, -⟩
            · exact ⟨.refl, rfl⟩
            · unfold legacyRule at hrule
              split at hrule
              · next hlegacy =>
                  simp only [settlesLegacyUnattributedAttempt, Bool.and_eq_true,
                    Option.isNone_iff_eq_none] at hlegacy
                  split at hrule
                  · next internal target hinternal htarget =>
                      cases hrule
                      obtain ⟨hcurrent, hnone⟩ :=
                        spec.unattributed internal target hinternal htarget hlegacy.1.2
                      refine settleLegacyUnattributedAttempt_moves hcurrent ?_ hrun
                      rw [hsecond.2, hfirst.2 (Or.inr hlegacy.1.2)]
                      exact hnone
                  · cases hrule
              · cases hrule
          refine ⟨(hfirst.1.trans hsecond.1).trans hthird.1, fun hkeeps ↦ ?_⟩
          rw [hthird.2, hsecond.2, hfirst.2 (Or.inl hkeeps)]

/-- A decision to confirm rests on the attempt the evidence attributes, which is still open. -/
theorem confirmedOnGoogle_attempt {evidence : PublicationEvidence} {text : Option Text}
    {previous : Option PreviousGoogleReplyObservation} {scope : ObservationScope}
    (h : (decideGoogleReplyObservation platform scope text previous
      (readPublicationCandidate s evidence)).resolution = .confirmedOnGoogle)
    {attempt : PublicationAttempt} (hattempt : evidence.attempt = some attempt) :
    isOpenAttemptOutcome attempt.outcome := by
  obtain ⟨candidate, hcandidate, hconfirmable, -⟩ := decideObservationResolution_candidate h
  unfold readPublicationCandidate at hcandidate
  rw [hattempt] at hcandidate
  split at hcandidate
  · next internal found _ hfound =>
      cases hfound
      cases hcandidate
      simp only [isConfirmableCurrentAttempt, Bool.and_eq_true] at hconfirmable
      exact hconfirmable.2
  · cases hcandidate

/-- What applying an observation wrote: the next head, a settlement, a confirmation, facts. -/
structure AppliedSpec (platform : Platform) (s : Store) (input : RecordGoogleReplyObservation)
    (decision : ObservationDecision) (evidence : PublicationEvidence) (supersedes : Bool)
    (s' : Store) (result : ObservationResult) (settled confirmed : Store)
    (cancellation : Option Fact) : Prop where
  revision : (s.head.map (·.observationRevision)).getD 0 + 1 ≤ maxSafeInteger
  settledFrom : settleSupersededPublication
    { s with
      observations := observationRow platform input decision
        ((s.head.map (·.observationRevision)).getD 0 + 1) :: s.observations }
    evidence supersedes = .ok (settled, cancellation)
  confirmedFrom : confirmWhenExact (settled.recordOptional cancellation) evidence decision
    ((s.head.map (·.observationRevision)).getD 0 + 1) = .ok confirmed
  written : s' = confirmed.recordOptional
    (if decision.resolution = .unchanged then none
      else some (.observed ((s.head.map (·.observationRevision)).getD 0 + 1) decision.change
        decision.resolution))
  told : result =
    ⟨(s.head.map (·.observationRevision)).getD 0 + 1, decision.change, decision.resolution, false⟩

/-- An observation that was applied did so in full. -/
theorem applyObservation_eq_ok {decision : ObservationDecision} {evidence : PublicationEvidence}
    {supersedes : Bool} {result : ObservationResult}
    (h : applyObservation platform s input decision evidence supersedes = .ok (s', result)) :
    ∃ settled confirmed cancellation, AppliedSpec platform s input decision evidence supersedes
      s' result settled confirmed cancellation := by
  unfold applyObservation at h
  simp only at h
  split at h
  · cases h
  · next hrevision =>
      split at h
      · cases h
      · next settled cancellation hsettled =>
          split at h
          · cases h
          · next confirmed hconfirmed =>
              cases h
              exact ⟨settled, confirmed, cancellation, Nat.le_of_not_lt hrevision, hsettled,
                hconfirmed, rfl, rfl⟩

/-- The confirmation of an observation is one publication move and its fact, or nothing. -/
theorem confirmWhenExact_moves {evidence : PublicationEvidence} {decision : ObservationDecision}
    {observationRevision : Nat}
    (confirms : decision.resolution = .confirmedOnGoogle → ∀ internal attempt,
      evidence.internal = some internal → evidence.attempt = some attempt →
        attempt ∈ s.attempts ∧ isOpenAttemptOutcome attempt.outcome)
    (h : confirmWhenExact s evidence decision observationRevision = .ok s') :
    StoreMoves platform actor s s' := by
  unfold confirmWhenExact at h
  split at h
  · next internal attempt hresolution hinternal hattempt =>
      obtain ⟨hfound, hopen⟩ := confirms hresolution internal attempt hinternal hattempt
      cases hconfirm : confirmReplyOnGoogle s internal attempt observationRevision with
      | error e =>
          rw [hconfirm] at h
          cases h
      | ok confirmed =>
          rw [hconfirm] at h
          cases h
          exact (confirmReplyOnGoogle_moves hfound hopen hconfirm).record _
  · cases h
    exact .refl

/-- The ways a committed observation was recorded. -/
inductive RecordPath (platform : Platform) (s : Store) (input : RecordGoogleReplyObservation) :
    Store → ObservationResult → Prop
  | replayed (row : GoogleReplyObservation)
      (found : s.observations.find? (·.observationKey == input.observationKey) = some row)
      (sameEvidence : row.inputDigest = input.inputDigest platform) :
      RecordPath platform s input s (resultFromRow row)
  | outdated (head : GoogleReplyObservation) (isHead : s.head = some head)
      (generation : input.readGeneration ≤ head.readGeneration)
      (isSnapshot : input.publicationTarget = none) :
      RecordPath platform s input s ⟨head.observationRevision, .unchanged, .unchanged, true⟩
  | restated (result : ObservationResult) (evidence : PublicationEvidence)
      (absent : s.observations.find? (·.observationKey == input.observationKey) = none)
      (source : s.review.sourceEpoch = input.sourceEpoch ∧
        s.review.sourceRevision = input.materialReviewRevision)
      (newer : ∀ head, s.head = some head → head.readGeneration < input.readGeneration)
      (loaded : loadPublicationEvidence s input = .ok evidence)
      (restates :
        let candidate := readPublicationCandidate s evidence
        let decision := decideGoogleReplyObservation platform input.scope input.observedText
          (s.head.map (·.asPrevious)) candidate
        decision.resolution = .earlierPublicationLive ∨
          restatesCurrentHead input decision s.head
            (supersedesCurrentAttempt decision.resolution candidate input.scope) evidence) :
      RecordPath platform s input (renewHeadContentClock s input.contentExpiresAt) result
  | applied (evidence : PublicationEvidence) (decision : ObservationDecision)
      (supersedes : Bool) (s' : Store) (result : ObservationResult)
      (absent : s.observations.find? (·.observationKey == input.observationKey) = none)
      (source : s.review.sourceEpoch = input.sourceEpoch ∧
        s.review.sourceRevision = input.materialReviewRevision)
      (newer : ∀ head, s.head = some head → head.readGeneration < input.readGeneration)
      (loaded : loadPublicationEvidence s input = .ok evidence)
      (decided : decision = decideGoogleReplyObservation platform input.scope input.observedText
        (s.head.map (·.asPrevious)) (readPublicationCandidate s evidence))
      (superseded : supersedes = supersedesCurrentAttempt decision.resolution
        (readPublicationCandidate s evidence) input.scope)
      (news : decision.resolution ≠ .earlierPublicationLive ∧
        restatesCurrentHead input decision s.head supersedes evidence = false)
      (applied : applyObservation platform s input decision evidence supersedes =
        .ok (s', result)) :
      RecordPath platform s input s' result

/-- New evidence that passed every fence restates the head or is applied. -/
theorem decideAndApply_path {result : ObservationResult}
    (absent : s.observations.find? (·.observationKey == input.observationKey) = none)
    (source : s.review.sourceEpoch = input.sourceEpoch ∧
      s.review.sourceRevision = input.materialReviewRevision)
    (newer : ∀ head, s.head = some head → head.readGeneration < input.readGeneration)
    (h : decideAndApply platform s input = .ok (s', result)) :
    RecordPath platform s input s' result := by
  unfold decideAndApply at h
  split at h
  · cases h
  · next evidence hevidence =>
      simp only at h
      split at h
      · next hearlier =>
          cases h
          exact .restated _ evidence absent source newer hevidence (Or.inl hearlier)
      · next hearlier =>
          split at h
          · next hrestates =>
              split at h
              · next head hhead =>
                  cases h
                  exact .restated _ evidence absent source newer hevidence (Or.inr hrestates)
              · next hhead =>
                  simp [restatesCurrentHead, hhead] at hrestates
          · next hrestates =>
              exact .applied evidence _ _ s' result absent source newer hevidence rfl rfl
                ⟨hearlier, by simpa using hrestates⟩ h

/-- A committed observation was told again, outdated, restated or applied. -/
theorem recordObservation_path {result : ObservationResult}
    (h : recordObservation platform s input = .ok (s', result)) :
    RecordPath platform s input s' result := by
  unfold recordObservation at h
  split at h
  · cases h
  · split at h
    · cases h
    · split at h
      · next row hrow =>
          split at h
          · cases h
          · next hsame =>
              cases h
              exact .replayed row hrow (not_not.1 (not_or.1 hsame).2)
      · next habsent =>
          split at h
          · cases h
          · next hsource =>
              have hcurrent : s.review.sourceEpoch = input.sourceEpoch ∧
                  s.review.sourceRevision = input.materialReviewRevision := by
                simpa [not_or] using hsource
              split at h
              · next hhead =>
                  exact decideAndApply_path habsent hcurrent (fun head hsome ↦ by
                    rw [hhead] at hsome
                    cases hsome) h
              · next head hhead =>
                  split at h
                  · next hgeneration =>
                      split at h
                      · next hsnapshot =>
                          cases h
                          exact .outdated head hhead hgeneration
                            (Option.isNone_iff_eq_none.1 hsnapshot)
                      · cases h
                  · next hgeneration =>
                      exact decideAndApply_path habsent hcurrent (fun other hsome ↦ by
                        rw [hhead] at hsome
                        cases hsome
                        exact Nat.lt_of_not_le hgeneration) h

/-- Renewing the head's clock touches nothing but the clock of the newest observation. -/
theorem renewHeadContentClock_eq (s : Store) (contentExpiresAt : Int) :
    ∃ observations, renewHeadContentClock s contentExpiresAt =
        { s with observations := observations } ∧
      (observations = s.observations ∨
        ∃ head rest, s.observations = head :: rest ∧
          observations = { head with contentExpiresAt := contentExpiresAt } :: rest) := by
  unfold renewHeadContentClock
  split
  · exact ⟨s.observations, rfl, Or.inl rfl⟩
  · next head rest hrows =>
      split
      · exact ⟨_, rfl, Or.inr ⟨head, rest, hrows, rfl⟩⟩
      · exact ⟨s.observations, rfl, Or.inl rfl⟩

/-- The rows with an observation appended, which makes it the head. -/
def appendObservation (platform : Platform) (s : Store) (input : RecordGoogleReplyObservation)
    (decision : ObservationDecision) : Store :=
  { s with
    observations := observationRow platform input decision
      ((s.head.map (·.observationRevision)).getD 0 + 1) :: s.observations }

/-- After its append an applied observation only settles, confirms and records facts. -/
theorem applyObservation_moves {evidence : PublicationEvidence} {decision : ObservationDecision}
    {supersedes : Bool} {result : ObservationResult}
    (loaded : loadPublicationEvidence s input = .ok evidence)
    (decided : decision = decideGoogleReplyObservation platform input.scope input.observedText
      (s.head.map (·.asPrevious)) (readPublicationCandidate s evidence))
    (superseded : supersedes = supersedesCurrentAttempt decision.resolution
      (readPublicationCandidate s evidence) input.scope)
    (applied : applyObservation platform s input decision evidence supersedes =
      .ok (s', result)) :
    StoreMoves platform actor (appendObservation platform s input decision) s' := by
  obtain ⟨settled, confirmed, cancellation, spec⟩ := applyObservation_eq_ok applied
  have hevidence := loadPublicationEvidence_spec loaded
  have hobserved : EvidenceSpec (appendObservation platform s input decision) evidence :=
    ⟨hevidence.owned, hevidence.unattributed⟩
  obtain ⟨hsettled, hkeeps⟩ : StoreMoves platform actor _ settled ∧ _ :=
    settleSupersededPublication_moves hobserved spec.settledFrom
  have htold := StoreMoves.recordOptional hsettled cancellation
  rw [spec.written]
  refine StoreMoves.recordOptional (htold.trans (confirmWhenExact_moves ?_ spec.confirmedFrom)) _
  intro hconfirmed internal attempt hinternal hattempt
  refine ⟨?_, confirmedOnGoogle_attempt (decided ▸ hconfirmed) hattempt⟩
  have hsame : (settled.recordOptional cancellation).attempts = settled.attempts := by
    cases cancellation <;> rfl
  rw [hsame, hkeeps (by simp [superseded, supersedesCurrentAttempt, hconfirmed])]
  exact (hevidence.owned internal attempt hinternal hattempt).1

/-- A recorded observation is a sequence of moves. -/
theorem recordObservation_moves {result : ObservationResult}
    (h : recordObservation platform s input = .ok (s', result)) :
    StoreMoves platform .reader s s' := by
  cases recordObservation_path h with
  | replayed row found sameEvidence => exact .refl
  | outdated head isHead generation isSnapshot => exact .refl
  | restated _ evidence absent source newer loaded restates =>
      obtain ⟨observations, heq, hrows⟩ := renewHeadContentClock_eq s input.contentExpiresAt
      rw [heq]
      refine .single (.observed observations (Or.inl rfl) ?_)
      rcases hrows with rfl | ⟨head, rest, hrows, rfl⟩
      · exact List.suffix_rfl
      · rw [hrows]
        exact List.suffix_rfl
  | applied evidence decision supersedes _ _ absent source newer loaded decided superseded news
      applied =>
      have happended : StoreMove platform .reader s (appendObservation platform s input decision) :=
        .observed _ (Or.inl rfl) (List.suffix_cons _ _)
      exact .head happended (applyObservation_moves loaded decided superseded applied)

end ReputationKey.Review
