import ReputationKey.Review.Guards

/-!
# What a read of the reply on Google says

The change a read shows against the current head and the conclusion drawn about a RepKey attempt.
Follows `src/src/contexts/review/domain/google-reply-observation.ts:71–378`.
-/

namespace ReputationKey.Review

/-- The head a read is compared with. Follows
`src/src/contexts/review/domain/google-reply-observation.ts:71–76`. -/
structure PreviousGoogleReplyObservation where
  state : ObservedState
  normalizedDigest : Option Digest
  sourceEpoch : Nat
  materialReviewRevision : Nat
  deriving DecidableEq, Repr

/-- The publication attempt a read may attribute. Follows
`src/src/contexts/review/domain/google-reply-observation.ts:78–113`. -/
structure PublicationCandidate where
  publicationCycle : Nat
  attemptNumber : Nat
  sourceEpoch : Nat
  materialReviewRevision : Nat
  expectedReplyDigest : Digest
  expectedReplyText : Option Text
  earlierConfirmedDigest : Option Digest
  outcome : AttemptOutcome
  deriving DecidableEq, Repr

/-- The review source a read was made for. -/
structure ObservationScope where
  sourceEpoch : Nat
  materialReviewRevision : Nat
  deriving DecidableEq, Repr

/-- Observed text with its digest; absent text has neither. -/
structure ObservedGoogleReply where
  state : ObservedState
  normalizedDigest : Option Digest
  deriving DecidableEq, Repr

/-- Describe what Google showed. Follows
`src/src/contexts/review/domain/google-reply-observation.ts:146–157`. -/
def describeObservedText (platform : Platform) (observedText : Option Text) :
    ObservedGoogleReply :=
  match observedText with
  | none => ⟨.absent, none⟩
  | some text => ⟨.live, some (platform.googleReplyTextDigest text)⟩

/-- The guest edited an answered review and Google still shows the answer to the earlier revision.
Follows `src/src/contexts/review/domain/google-reply-observation.ts:171–186`. -/
def isReplyCarriedOverFromEarlierRevision (observed : ObservedGoogleReply)
    (previous : Option PreviousGoogleReplyObservation) (scope : ObservationScope) : Bool :=
  match previous with
  | none => false
  | some previous =>
      previous.state == .live && observed.state == .live &&
        previous.sourceEpoch == scope.sourceEpoch &&
        decide (previous.materialReviewRevision < scope.materialReviewRevision) &&
        previous.normalizedDigest == observed.normalizedDigest

/-- Material change against the previous head. Follows
`src/src/contexts/review/domain/google-reply-observation.ts:192–217`. -/
def decideObservationChange (observed : ObservedGoogleReply)
    (previous : Option PreviousGoogleReplyObservation) (scope : ObservationScope) :
    ObservationChange :=
  if isReplyCarriedOverFromEarlierRevision observed previous scope then
    .unchanged
  else
    match previous with
    | none => if observed.state = .live then .added else .unchanged
    | some previous =>
        if previous.sourceEpoch ≠ scope.sourceEpoch ∨
            previous.materialReviewRevision ≠ scope.materialReviewRevision then
          if observed.state = .live then .added else .unchanged
        else if previous.state = .live ∧ observed.state = .absent then .deleted
        else if previous.state = .absent ∧ observed.state = .live then .added
        else if observed.state = .live ∧ previous.normalizedDigest ≠ observed.normalizedDigest then
          .edited
        else .unchanged

/-- An attempt of the observed source whose outcome is still open. Follows
`src/src/contexts/review/domain/google-reply-observation.ts:221–230`. -/
def isConfirmableCurrentAttempt (candidate : PublicationCandidate) (scope : ObservationScope) :
    Bool :=
  candidate.sourceEpoch == scope.sourceEpoch &&
    candidate.materialReviewRevision == scope.materialReviewRevision &&
    isOpenAttemptOutcome candidate.outcome

/-- Replace every run of white space by one space. -/
def unifyWhitespaceRuns : Text → Text
  | [] => []
  | [unit] => if isJsWhitespace unit then [32] else [unit]
  | unit :: next :: rest =>
      if isJsWhitespace unit then
        if isJsWhitespace next then unifyWhitespaceRuns (next :: rest)
        else 32 :: unifyWhitespaceRuns (next :: rest)
      else unit :: unifyWhitespaceRuns (next :: rest)

/-- Every run of white space becomes one space, then the ends are trimmed. Follows
`src/src/contexts/review/domain/google-reply-observation.ts:233–235`. -/
def collapseWhitespace (platform : Platform) (text : Text) : Text :=
  trim (unifyWhitespaceRuns (platform.normalizeGoogleReplyText text))

/-- Google echoes the attempt's own text with only its white space reformatted. Follows
`src/src/contexts/review/domain/google-reply-observation.ts:245–253`. -/
def isWhitespaceOnlyDifference (platform : Platform) (candidate : PublicationCandidate)
    (observedText : Text) : Bool :=
  match candidate.expectedReplyText with
  | none => false
  | some expected =>
      platform.googleReplyTextDigest expected == candidate.expectedReplyDigest &&
        collapseWhitespace platform expected == collapseWhitespace platform observedText

/-- An edit whose echo has not arrived: Google shows the reply's own earlier publication, as the
head already does. Follows
`src/src/contexts/review/domain/google-reply-observation.ts:265–280`. -/
def showsEarlierPublicationUnchanged (candidate : PublicationCandidate)
    (observed : ObservedGoogleReply) (previous : Option PreviousGoogleReplyObservation)
    (scope : ObservationScope) : Bool :=
  candidate.earlierConfirmedDigest.isSome &&
    candidate.earlierConfirmedDigest == observed.normalizedDigest &&
    match previous with
    | none => false
    | some previous =>
        previous.state == .live && previous.normalizedDigest == observed.normalizedDigest &&
          previous.sourceEpoch == scope.sourceEpoch &&
          previous.materialReviewRevision == scope.materialReviewRevision

/-- What a read concludes. -/
structure ObservationDecision where
  state : ObservedState
  change : ObservationChange
  resolution : ObservationResolution
  normalizedDigest : Option Digest
  matchedAttempt : Option (Nat × Nat)
  deriving DecidableEq, Repr

/-- The resolution of a read, in the order its rules are asked. Follows
`src/src/contexts/review/domain/google-reply-observation.ts:283–378`. -/
def decideObservationResolution (platform : Platform) (scope : ObservationScope)
    (observedText : Option Text) (previous : Option PreviousGoogleReplyObservation)
    (candidate : Option PublicationCandidate) (change : ObservationChange) :
    ObservationResolution :=
  let observed := describeObservedText platform observedText
  let current := candidate.filter fun candidate ↦ isConfirmableCurrentAttempt candidate scope
  match observedText, current with
  | none, _ => if change = .deleted then .absent else .unchanged
  | some _, none => if change = .unchanged then .unchanged else .externalCurrentLive
  | some text, some candidate =>
      if some candidate.expectedReplyDigest = observed.normalizedDigest then
        .confirmedOnGoogle
      else if showsEarlierPublicationUnchanged candidate observed previous scope then
        .earlierPublicationLive
      else if isWhitespaceOnlyDifference platform candidate text then
        .diverged
      else
        .externalCurrentLive

/-- The authority for reply changes and attribution. Follows
`src/src/contexts/review/domain/google-reply-observation.ts:283–378`. -/
def decideGoogleReplyObservation (platform : Platform) (scope : ObservationScope)
    (observedText : Option Text) (previous : Option PreviousGoogleReplyObservation)
    (candidate : Option PublicationCandidate) : ObservationDecision :=
  let observed := describeObservedText platform observedText
  let change := decideObservationChange observed previous scope
  let resolution :=
    decideObservationResolution platform scope observedText previous candidate change
  { state := observed.state
    change := change
    resolution := resolution
    normalizedDigest := observed.normalizedDigest
    matchedAttempt :=
      if resolution = .confirmedOnGoogle then
        candidate.map fun candidate ↦ (candidate.publicationCycle, candidate.attemptNumber)
      else none }

/-- A confirmation or a supersession rests on an open attempt of the observed source. -/
theorem decideObservationResolution_candidate {platform : Platform} {scope : ObservationScope}
    {observedText : Option Text} {previous : Option PreviousGoogleReplyObservation}
    {candidate : Option PublicationCandidate} {change : ObservationChange}
    (h : decideObservationResolution platform scope observedText previous candidate change =
      .confirmedOnGoogle) :
    ∃ c, candidate = some c ∧ isConfirmableCurrentAttempt c scope ∧
      ∃ text, observedText = some text ∧
        c.expectedReplyDigest = platform.googleReplyTextDigest text := by
  unfold decideObservationResolution at h
  simp only at h
  split at h
  · split at h <;> cases h
  · split at h <;> cases h
  · next text c hc =>
      obtain ⟨hsome, hconf⟩ := Option.filter_eq_some_iff.1 hc
      refine ⟨c, hsome, hconf, text, rfl, ?_⟩
      split at h
      · next hdigest => simpa [describeObservedText] using hdigest
      · split at h
        · cases h
        · split at h <;> cases h

end ReputationKey.Review
