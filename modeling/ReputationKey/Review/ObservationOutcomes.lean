import ReputationKey.Review.ObservationStore
import ReputationKey.Review.ReplyRun

/-!
# When a read confirms a reply and when it closes an attempt

The two outcomes of a read that settle the open attempt: its text is confirmed on Google, or another
reply is live in its place. Follows
`src/src/contexts/review/domain/google-reply-observation.ts:158–378` and
`src/src/contexts/review/infrastructure/google-reply-observation-store.ts:271–290`.
-/

namespace ReputationKey.Review

/-- The attempt is open for the source the read was made for. -/
structure PublicationCandidate.OpenFor (attempt : PublicationCandidate) (scope : ObservationScope) :
    Prop where
  sourceEpoch : attempt.sourceEpoch = scope.sourceEpoch
  materialReviewRevision : attempt.materialReviewRevision = scope.materialReviewRevision
  isOpen : isOpenAttemptOutcome attempt.outcome

/-- The text the attempt is known to carry: it digests to the attempt's own digest. -/
def PublicationCandidate.Carries (platform : Platform) (attempt : PublicationCandidate)
    (expected : Text) : Prop :=
  attempt.expectedReplyText = some expected ∧
    platform.googleReplyTextDigest expected = attempt.expectedReplyDigest

/-- Two texts differ in their white space at most. -/
def SameUpToWhitespace (platform : Platform) (a b : Text) : Prop :=
  collapseWhitespace platform a = collapseWhitespace platform b

/-- Google shows the text RepKey last confirmed for this reply, and the head of the same source
already holds it. -/
def ShowsEarlierPublication (platform : Platform) (attempt : PublicationCandidate) (text : Text)
    (previous : Option PreviousGoogleReplyObservation) (scope : ObservationScope) : Prop :=
  attempt.earlierConfirmedDigest = some (platform.googleReplyTextDigest text) ∧
    previous = some ⟨.live, some (platform.googleReplyTextDigest text), scope.sourceEpoch,
      scope.materialReviewRevision⟩

variable {platform : Platform} {scope : ObservationScope} {observedText : Option Text}
  {previous : Option PreviousGoogleReplyObservation} {candidate : Option PublicationCandidate}

theorem isConfirmableCurrentAttempt_iff {attempt : PublicationCandidate} :
    isConfirmableCurrentAttempt attempt scope = true ↔ attempt.OpenFor scope := by
  simp only [isConfirmableCurrentAttempt, Bool.and_eq_true, beq_iff_eq]
  constructor
  · rintro ⟨⟨hepoch, hrevision⟩, hopen⟩
    exact ⟨hepoch, hrevision, hopen⟩
  · intro h
    exact ⟨⟨h.sourceEpoch, h.materialReviewRevision⟩, h.isOpen⟩

theorem isWhitespaceOnlyDifference_iff {attempt : PublicationCandidate} {text : Text} :
    isWhitespaceOnlyDifference platform attempt text = true ↔
      ∃ expected, attempt.Carries platform expected ∧
        SameUpToWhitespace platform expected text := by
  cases h : attempt.expectedReplyText with
  | none => simp [isWhitespaceOnlyDifference, PublicationCandidate.Carries, h]
  | some expected =>
      simp [isWhitespaceOnlyDifference, PublicationCandidate.Carries, SameUpToWhitespace, h]

theorem showsEarlierPublicationUnchanged_iff {attempt : PublicationCandidate} {text : Text} :
    showsEarlierPublicationUnchanged attempt (describeObservedText platform (some text)) previous
        scope = true ↔ ShowsEarlierPublication platform attempt text previous scope := by
  cases previous with
  | none => simp [ShowsEarlierPublication, showsEarlierPublicationUnchanged]
  | some head =>
      obtain ⟨state, digest, epoch, revision⟩ := head
      simp only [ShowsEarlierPublication, showsEarlierPublicationUnchanged, describeObservedText]
      constructor
      · intro h
        simp only [Bool.and_eq_true, beq_iff_eq] at h
        obtain ⟨⟨_, hearlier⟩, ⟨⟨rfl, rfl⟩, rfl⟩, rfl⟩ := h
        exact ⟨hearlier, rfl⟩
      · rintro ⟨hearlier, hhead⟩
        cases hhead
        simp [hearlier]

/-- A read confirms exactly when its live text has the digest of an open attempt's text. -/
theorem confirms_iff :
    (decideGoogleReplyObservation platform scope observedText previous candidate).resolution =
        .confirmedOnGoogle ↔
      ∃ text attempt, observedText = some text ∧ candidate = some attempt ∧
        platform.googleReplyTextDigest text = attempt.expectedReplyDigest ∧
        attempt.OpenFor scope := by
  constructor
  · intro h
    obtain ⟨attempt, hsome, hopen, text, htext, hdigest⟩ := decideObservationResolution_candidate h
    exact ⟨text, attempt, htext, hsome, hdigest.symm, isConfirmableCurrentAttempt_iff.1 hopen⟩
  · rintro ⟨text, attempt, rfl, rfl, hdigest, hopen⟩
    have hcurrent := isConfirmableCurrentAttempt_iff.2 hopen
    simp [decideGoogleReplyObservation, decideObservationResolution, describeObservedText,
      Option.filter, hcurrent, hdigest]

/-- A read that closes an open attempt shows live text that is not the attempt's. -/
theorem supersedes_spec
    (h : supersedesCurrentAttempt
      (decideGoogleReplyObservation platform scope observedText previous candidate).resolution
      candidate scope = true) :
    ∃ text attempt, observedText = some text ∧ candidate = some attempt ∧ attempt.OpenFor scope ∧
      platform.googleReplyTextDigest text ≠ attempt.expectedReplyDigest ∧
      (∀ expected, attempt.Carries platform expected →
        ¬ SameUpToWhitespace platform expected text) ∧
      ¬ ShowsEarlierPublication platform attempt text previous scope := by
  simp only [supersedesCurrentAttempt, Bool.and_eq_true, beq_iff_eq, Option.any_eq_true] at h
  obtain ⟨hexternal, attempt, rfl, hcurrent⟩ := h
  have hopen := isConfirmableCurrentAttempt_iff.1 hcurrent
  cases observedText with
  | none =>
      simp only [decideGoogleReplyObservation, decideObservationResolution] at hexternal
      split at hexternal <;> cases hexternal
  | some text =>
      simp only [decideGoogleReplyObservation, decideObservationResolution, Option.filter,
        hcurrent, if_true] at hexternal
      split at hexternal
      · cases hexternal
      · next hdigest =>
        split at hexternal
        · cases hexternal
        · next hearlier =>
          split at hexternal
          · cases hexternal
          · next hwhitespace =>
            refine ⟨text, attempt, rfl, rfl, hopen, ?_, ?_, ?_⟩
            · intro hsame
              exact hdigest (congrArg some hsame.symm)
            · intro expected hcarries hsame
              exact hwhitespace (isWhitespaceOnlyDifference_iff.2 ⟨expected, hcarries, hsame⟩)
            · intro hshows
              exact hearlier (showsEarlierPublicationUnchanged_iff.2 hshows)

/-- A read confirms the reply exactly when its live text has the digest of the text of an attempt
that is open for the read's source. It closes the open attempt only for a live text that differs in
more than white space from the text the attempt is known to carry, and that is not an earlier
publication still shown. No read does both. -/
theorem observation_outcomes_exact (platform : Platform) (scope : ObservationScope)
    (observedText : Option Text) (previous : Option PreviousGoogleReplyObservation)
    (candidate : Option PublicationCandidate) :
    ((decideGoogleReplyObservation platform scope observedText previous candidate).resolution =
        .confirmedOnGoogle ↔
      ∃ text attempt, observedText = some text ∧ candidate = some attempt ∧
        platform.googleReplyTextDigest text = attempt.expectedReplyDigest ∧
        attempt.OpenFor scope) ∧
    (supersedesCurrentAttempt
        (decideGoogleReplyObservation platform scope observedText previous candidate).resolution
        candidate scope = true →
      ∃ text attempt, observedText = some text ∧ candidate = some attempt ∧
        attempt.OpenFor scope ∧ platform.googleReplyTextDigest text ≠ attempt.expectedReplyDigest ∧
        (∀ expected, attempt.Carries platform expected →
          ¬ SameUpToWhitespace platform expected text) ∧
        ¬ ShowsEarlierPublication platform attempt text previous scope) ∧
    ¬ ((decideGoogleReplyObservation platform scope observedText previous candidate).resolution =
        .confirmedOnGoogle ∧
      supersedesCurrentAttempt
        (decideGoogleReplyObservation platform scope observedText previous candidate).resolution
        candidate scope = true) := by
  refine ⟨confirms_iff, supersedes_spec, ?_⟩
  rintro ⟨hconfirmed, hsupersedes⟩
  simp [hconfirmed, supersedesCurrentAttempt] at hsupersedes

/-- An attempt in flight that carries `ok`. -/
def sampleInFlight : PublicationCandidate where
  publicationCycle := 1
  attemptNumber := 1
  sourceEpoch := 1
  materialReviewRevision := 1
  expectedReplyDigest := samplePlatform.googleReplyTextDigest sampleText
  expectedReplyText := some sampleText
  earlierConfirmedDigest := none
  outcome := .sending

/-- A live text of no characters closes the open attempt too. -/
theorem live_empty_text_supersedes :
    ¬ ∀ (platform : Platform) (scope : ObservationScope) (observedText : Option Text)
      (previous : Option PreviousGoogleReplyObservation) (candidate : Option PublicationCandidate),
      supersedesCurrentAttempt (decideGoogleReplyObservation platform scope observedText previous
        candidate).resolution candidate scope = true →
      ∃ text, observedText = some text ∧ text ≠ [] := by
  intro h
  have hsupersedes : supersedesCurrentAttempt
      (decideGoogleReplyObservation samplePlatform ⟨1, 1⟩ (some []) none
        (some sampleInFlight)).resolution (some sampleInFlight) ⟨1, 1⟩ = true := by
    decide +kernel
  obtain ⟨text, htext, hne⟩ := h _ _ _ _ _ hsupersedes
  exact hne (Option.some.inj htext).symm

end ReputationKey.Review
