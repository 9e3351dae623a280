import ReputationKey.Base.Run

/-!
# New-review discovery looks

When the discovery sweep looks at a property, when a look may skip the full snapshot, and what the
sweep, the snapshot job, pushes and the content refresh write about it. Instants and waits are whole
milliseconds. Follows `src/src/contexts/review/domain/discovery-backoff.ts`,
`domain/discovery-reconciliation.ts`, `domain/snapshot-failure-backoff.ts`,
`infrastructure/repositories/review-discovery.repository.ts`,
`infrastructure/repositories/review-sync-activity.repository.ts:33–73` and
`infrastructure/jobs/discover-new-reviews.job.ts:223–304`.
-/

namespace ReputationKey.Review

/-! ## The backoff ladder -/

/-- Discovery cadence tier, coldest last. -/
inductive DiscoveryBackoffTier
  | hot
  | warm
  | cold
  deriving DecidableEq, Repr

/-- Activity evidence for one property. -/
structure DiscoveryActivity where
  lastNewReviewAt : Option Int
  lastNotificationAt : Option Int
  observedSince : Option Int
  deriving DecidableEq, Repr

/-- The ladder as multiples of the base interval. -/
def discoveryTierMultiplier : DiscoveryBackoffTier → Int
  | .hot => 1
  | .warm => 4
  | .cold => 24

/-- Quiet for at least this long is no longer hot. -/
def discoveryWarmAfterMs : Int := 6 * 60 * 60 * 1000

/-- Quiet for at least this long is cold. -/
def discoveryColdAfterMs : Int := 3 * 24 * 60 * 60 * 1000

/-- The cap on a scaled interval. -/
def discoveryMaxIntervalMs : Int := 6 * 60 * 60 * 1000

/-- The newest activity instant known. -/
def lastDiscoveryActivityAt (activity : DiscoveryActivity) : Option Int :=
  [activity.lastNewReviewAt, activity.lastNotificationAt, activity.observedSince].foldl
    (fun newest candidate ↦
      match candidate, newest with
      | none, newest => newest
      | some candidate, none => some candidate
      | some candidate, some newest => some (if newest < candidate then candidate else newest))
    none

/-- The tier of a property at `now`. -/
def discoveryTierFor (activity : DiscoveryActivity) (now : Int) : DiscoveryBackoffTier :=
  match lastDiscoveryActivityAt activity with
  | none => .cold
  | some lastActivityAt =>
      let quietForMs := max 0 (now - lastActivityAt)
      if quietForMs < discoveryWarmAfterMs then .hot
      else if quietForMs < discoveryColdAfterMs then .warm
      else .cold

/-- The wait before the next poll: the base interval scaled by the tier, capped, and never below
the base interval. -/
def discoveryIntervalMs (activity : DiscoveryActivity) (now baseIntervalMs : Int) : Int :=
  let scaled := baseIntervalMs * discoveryTierMultiplier (discoveryTierFor activity now)
  max baseIntervalMs (min scaled discoveryMaxIntervalMs)

/-- The instant of the next poll. -/
def nextDiscoveryDueAt (activity : DiscoveryActivity) (now baseIntervalMs : Int) : Int :=
  now + discoveryIntervalMs activity now baseIntervalMs

/-- The ladder never polls more often than the base interval. -/
theorem le_discoveryIntervalMs (activity : DiscoveryActivity) (now baseIntervalMs : Int) :
    baseIntervalMs ≤ discoveryIntervalMs activity now baseIntervalMs := by
  unfold discoveryIntervalMs
  exact Int.le_max_left _ _

/-- No interval passes the cap, unless the base interval itself does. -/
theorem discoveryIntervalMs_le (activity : DiscoveryActivity) (now baseIntervalMs : Int) :
    discoveryIntervalMs activity now baseIntervalMs ≤ max baseIntervalMs discoveryMaxIntervalMs := by
  simp only [discoveryIntervalMs]
  omega

/-! ## Whether a look is full -/

/-- How recent a completed reconciliation must be for a look to skip, unless configured. -/
def discoveryReconcileWithinMs : Int := 6 * 60 * 60 * 1000

/-- Why a look runs the full snapshot. -/
inductive DiscoveryFullReason
  | skipDisabled
  | failureRetry
  | noReconciliation
  | due
  deriving DecidableEq, Repr

/-- What a look does: the full snapshot, or nothing until the next look. -/
inductive DiscoveryLook
  | full (reason : DiscoveryFullReason)
  | skip (nextDueAt : Int) (headCheck : Bool)
  deriving DecidableEq, Repr

/-- What a look knows. -/
structure DiscoveryLookInput where
  lastReconciledAt : Option Int
  hasOutstandingFailure : Bool
  skipEnabled : Bool
  headChecks : Option Bool
  reconcileWithinMs : Option Int
  now : Int
  interval : Int
  deriving DecidableEq, Repr

/-- The reconciliation window of a look. -/
def DiscoveryLookInput.window (input : DiscoveryLookInput) : Int :=
  input.reconcileWithinMs.getD discoveryReconcileWithinMs

/-- Whether a look runs a full snapshot or skips. Follows
`src/src/contexts/review/domain/discovery-reconciliation.ts:61–83`. -/
def discoveryLookFor (input : DiscoveryLookInput) : DiscoveryLook :=
  if !input.skipEnabled then .full .skipDisabled
  else if input.hasOutstandingFailure then .full .failureRetry
  else
    match input.lastReconciledAt with
    | none => .full .noReconciliation
    | some lastReconciledAt =>
        let deadline := lastReconciledAt + input.window
        if deadline ≤ input.now + input.interval then .full .due
        else if input.headChecks = some true then .skip (input.now + input.interval) true
        else .skip (max (input.now + input.interval) (deadline - input.interval)) false

/-- A look skips only when nothing failed, something was reconciled, and a look one interval later
would still be ahead of the deadline. -/
theorem discoveryLookFor_skip {input : DiscoveryLookInput} {nextDueAt : Int} {headCheck : Bool}
    (h : discoveryLookFor input = .skip nextDueAt headCheck) :
    input.hasOutstandingFailure = false ∧ ∃ lastReconciledAt,
      input.lastReconciledAt = some lastReconciledAt ∧
      input.now + input.interval < lastReconciledAt + input.window ∧
      (nextDueAt = input.now + input.interval ∨
        nextDueAt = max (input.now + input.interval)
          (lastReconciledAt + input.window - input.interval)) := by
  unfold discoveryLookFor at h
  split at h
  · cases h
  · split at h
    · cases h
    · next hfailure =>
        refine ⟨by simpa using hfailure, ?_⟩
        split at h
        · cases h
        · next last hlast =>
            refine ⟨last, hlast, ?_⟩
            simp only at h
            split at h
            · cases h
            · next hdue =>
                refine ⟨Int.not_le.1 hdue, ?_⟩
                split at h
                · injection h with hnext
                  exact Or.inl hnext.symm
                · injection h with hnext
                  exact Or.inr hnext.symm

/-! ## The rows and their writers -/

/-- What the store keeps about discovery of one property: its last completed reconciliation in the
current source epoch, its sync state and its start of observation. -/
structure PropertyDiscovery where
  lastReconciledAt : Option Int
  nextIncrementalAt : Option Int
  lastNewReviewAt : Option Int
  lastNotificationAt : Option Int
  observedSince : Option Int
  errorClass : Option String
  errorRetryAt : Option Int
  lastTerminalErrorAt : Option Int
  deriving DecidableEq, Repr

/-- The activity evidence of a property. -/
def PropertyDiscovery.activity (property : PropertyDiscovery) : DiscoveryActivity :=
  ⟨property.lastNewReviewAt, property.lastNotificationAt, property.observedSince⟩

/-- Whether the sweep's query selects a property at `due`. -/
def PropertyDiscovery.isDue (property : PropertyDiscovery) (due : Int) : Bool :=
  property.nextIncrementalAt.all fun nextIncrementalAt ↦ decide (nextIncrementalAt ≤ due)

/-- A full look was enqueued. -/
def markDiscoveryScheduled (property : PropertyDiscovery) (nextDueAt : Int) : PropertyDiscovery :=
  { property with nextIncrementalAt := some nextDueAt }

/-- A look was skipped: only the due time moves. -/
def markDiscoverySkipped (property : PropertyDiscovery) (nextDueAt : Int) : PropertyDiscovery :=
  { property with nextIncrementalAt := some nextDueAt }

/-- A failure defers the next look: its retry date and the next look are one value. -/
def markDiscoveryDeferred (property : PropertyDiscovery) (now nextDueAt : Int)
    (errorClass : String) : PropertyDiscovery :=
  { property with
    nextIncrementalAt := some nextDueAt
    errorClass := some errorClass
    errorRetryAt := some nextDueAt
    lastTerminalErrorAt := some now }

/-- A completed run clears the failure. -/
def markSyncSucceeded (property : PropertyDiscovery) : PropertyDiscovery :=
  { property with errorClass := none, errorRetryAt := none }

/-- The later of a stored instant and a new one. -/
def greatest : Option Int → Int → Int
  | none, observed => observed
  | some stored, observed => max stored observed

/-- A review never seen before arrived. -/
def recordNewReviewObserved (property : PropertyDiscovery) (observedAt : Int) :
    PropertyDiscovery :=
  { property with lastNewReviewAt := some (greatest property.lastNewReviewAt observedAt) }

/-- A push arrived: the next look is no later than the bound, and no earlier than a failure's
retry. -/
def recordPushObserved (property : PropertyDiscovery) (observedAt pollNoLaterThan : Int) :
    PropertyDiscovery :=
  let earliest := min (property.nextIncrementalAt.getD pollNoLaterThan) pollNoLaterThan
  { property with
    lastNotificationAt := some (greatest property.lastNotificationAt observedAt)
    nextIncrementalAt := some (greatest property.errorRetryAt earliest) }

/-- The content refresh moves up the look of a property not reconciled since `reconciledSince`,
unless a failure is still backing off. Follows
`src/src/contexts/review/infrastructure/repositories/review-discovery.repository.ts:297–352`. -/
def pullLooksForward (property : PropertyDiscovery) (now reconciledSince : Int) :
    PropertyDiscovery :=
  let recent := property.lastReconciledAt.any fun at_ ↦ decide (reconciledSince ≤ at_)
  let ahead := property.nextIncrementalAt.any fun at_ ↦ decide (now < at_)
  let retryPassed := property.errorRetryAt.all fun at_ ↦ decide (at_ ≤ now)
  if !recent && ahead && retryPassed then { property with nextIncrementalAt := some now }
  else property

/-! ## The wait after a failure -/

/-- How long a location over the review or page cap waits. -/
def locationTooLargeRetryMs : Int := 24 * 60 * 60 * 1000

/-- The longest a repeated failure waits. -/
def snapshotFailureMaxRetryMs : Int := 6 * 60 * 60 * 1000

/-- Each consecutive failure waits this many times the one before it. -/
def snapshotFailureBackoffFactor : Int := 4

/-- The wait the previous failure was dated with, when it can be told. -/
def previousWaitMs (property : PropertyDiscovery) : Option Int :=
  match property.lastTerminalErrorAt, property.errorRetryAt with
  | some failedAt, some retryAt =>
      let waitMs := retryAt - failedAt
      if 0 < waitMs then some waitMs else none
  | _, _ => none

/-- The wait before the retry of a failed snapshot run. -/
def snapshotFailureRetryMs (property : PropertyDiscovery) (now baseIntervalMs : Int)
    (locationTooLarge : Bool) : Int :=
  if locationTooLarge then locationTooLargeRetryMs
  else if property.errorClass = none then baseIntervalMs
  else
    let waitedMs :=
      min (max ((previousWaitMs property).getD baseIntervalMs) baseIntervalMs)
        snapshotFailureMaxRetryMs
    let queueRetry := property.errorRetryAt.any fun retryAt ↦ decide (now < retryAt)
    let nextMs := if queueRetry then waitedMs else waitedMs * snapshotFailureBackoffFactor
    max baseIntervalMs (min nextMs snapshotFailureMaxRetryMs)

/-! ## One look of the sweep -/

/-- What the sweep is configured with. -/
structure DiscoverySweep where
  baseIntervalMs : Int
  skipRecentlyReconciled : Bool
  headEnabled : Bool
  reconcileWithinMs : Option Int
  deriving DecidableEq, Repr

/-- How handing the full snapshot to the queue went: `deferred` tells whether the deferral of a
failed one was written. -/
inductive EnqueueOutcome
  | enqueued
  | failed (deferred : Bool)
  deriving DecidableEq, Repr

/-- The reconciliation window the sweep works with. -/
def DiscoverySweep.window (sweep : DiscoverySweep) : Int :=
  sweep.reconcileWithinMs.getD discoveryReconcileWithinMs

/-- The decision of the look at a property. -/
def DiscoverySweep.lookFor (sweep : DiscoverySweep) (property : PropertyDiscovery) (now : Int) :
    DiscoveryLook :=
  discoveryLookFor
    { lastReconciledAt := property.lastReconciledAt
      hasOutstandingFailure := property.errorClass.isSome
      skipEnabled := sweep.skipRecentlyReconciled
      headChecks := some sweep.headEnabled
      reconcileWithinMs := sweep.reconcileWithinMs
      now := now
      interval := discoveryIntervalMs property.activity now sweep.baseIntervalMs }

/-- The full look: enqueue the snapshot and date the next look, or defer it. Follows
`src/src/contexts/review/infrastructure/jobs/discover-new-reviews.job.ts:223–265`. -/
def DiscoverySweep.enqueueFullLook (sweep : DiscoverySweep) (property : PropertyDiscovery)
    (now : Int) : EnqueueOutcome → PropertyDiscovery
  | .enqueued =>
      markDiscoveryScheduled property
        (nextDiscoveryDueAt property.activity now sweep.baseIntervalMs)
  | .failed true =>
      markDiscoveryDeferred property now (now + sweep.baseIntervalMs) "enqueue_failed"
  | .failed false => property

/-- One look at one candidate. Follows
`src/src/contexts/review/infrastructure/jobs/discover-new-reviews.job.ts:274–304`. -/
def DiscoverySweep.lookAtCandidate (sweep : DiscoverySweep) (property : PropertyDiscovery)
    (now : Int) (enqueue : EnqueueOutcome) : PropertyDiscovery :=
  match sweep.lookFor property now with
  | .skip nextDueAt _ => markDiscoverySkipped property nextDueAt
  | .full _ => sweep.enqueueFullLook property now enqueue

/-! ## Runs of one property -/

/-- What happens to the discovery of a property. -/
inductive DiscoveryEvent
  | look (now : Int) (enqueue : EnqueueOutcome)
  | reconciled (evaluatedAt : Int)
  | syncSucceeded
  | snapshotFailed (now : Int) (locationTooLarge : Bool) (code : String)
  | newReviewObserved (observedAt : Int)
  | pushObserved (observedAt : Int)
  | pulledForward (now reconciledSince : Int)
  | sourceEpochChanged
  deriving DecidableEq, Repr

/-- The effect of an event. The store keeps the newest completed reconciliation; a push bounds the
next look by one base interval. -/
def DiscoveryEvent.apply (sweep : DiscoverySweep) (property : PropertyDiscovery) :
    DiscoveryEvent → PropertyDiscovery
  | .look now enqueue => sweep.lookAtCandidate property now enqueue
  | .reconciled evaluatedAt =>
      { property with lastReconciledAt := some (greatest property.lastReconciledAt evaluatedAt) }
  | .syncSucceeded => markSyncSucceeded property
  | .snapshotFailed now locationTooLarge code =>
      markDiscoveryDeferred property now
        (now + snapshotFailureRetryMs property now sweep.baseIntervalMs locationTooLarge) code
  | .newReviewObserved observedAt => recordNewReviewObserved property observedAt
  | .pushObserved observedAt =>
      recordPushObserved property observedAt (observedAt + sweep.baseIntervalMs)
  | .pulledForward now reconciledSince => pullLooksForward property now reconciledSince
  | .sourceEpochChanged => { property with lastReconciledAt := none }

/-- Discovery of one property, from any rows, through events in any order. -/
def discoverySystem (sweep : DiscoverySweep) :
    Base.ReadSystem PropertyDiscovery DiscoveryEvent where
  init _ := True
  step _ property event property' := property' = event.apply sweep property

end ReputationKey.Review
