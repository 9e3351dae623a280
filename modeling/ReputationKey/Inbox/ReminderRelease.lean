import ReputationKey.Inbox.HandlingCycle

/-!
# Response Targets and the release of their reminders

A measured target has two write-once reminder slots. A tick lists the due ones, reads Google where
a reply could already answer the review, and delivers, holds or leaves each slot; the store decides
again under the target's lock. Times are epoch milliseconds. Follows
`src/src/contexts/inbox/domain/response-target.ts:93–229`,
`src/src/contexts/inbox/domain/reminder-release.ts`,
`src/src/contexts/inbox/application/use-cases/release-response-target-reminders.ts` and
`src/src/contexts/inbox/infrastructure/response-target-reminder-release.store.ts`.
-/

namespace ReputationKey.Inbox

/-! ## Targets -/

/-- What a target measures. -/
inductive ResponseTargetKind
  | googleReviewResponse
  | privateFeedbackHandling
  deriving DecidableEq, Repr

/-- Where a target's duration comes from. -/
inductive ResponseTargetPolicySource
  | builtinDefault
  | organizationPolicy
  | propertyOverride
  deriving DecidableEq, Repr

/-- How long a target lasts. -/
structure ResponseTargetPolicy where
  durationMinutes : Int
  policySource : ResponseTargetPolicySource
  policyVersion : Int
  deriving DecidableEq, Repr

/-- The two reminders of a target. -/
inductive ResponseTargetReminderKind
  | halfway
  | targetPassed
  deriving DecidableEq, Repr

/-- One reminder of a target, and when it is due. -/
structure TargetReminder where
  kind : ResponseTargetReminderKind
  scheduledFor : Int
  deriving DecidableEq, Repr

/-- A target as it is recorded. -/
structure ResponseTargetSnapshot where
  targetKind : ResponseTargetKind
  policy : ResponseTargetPolicy
  startAt : Int
  dueAt : Int
  reminders : List TargetReminder
  deriving DecidableEq, Repr

/-- Whether a resolved policy, which has no low-rating pair, is one a target may have. -/
def assertPolicy (policy : ResponseTargetPolicy) : Except InboxError Unit :=
  if policy.durationMinutes < 1 ∨ 720 * 60 < policy.durationMinutes ∨
      maxSafeInteger < policy.policyVersion ∨ policy.policyVersion < 1 then
    .error (invalidInput "Response Target policy is invalid")
  else .ok ()

/-- An instant some minutes later, counted in halves: a halfway point may have half a minute. -/
def addHalfMinutes (instant halfMinutes : Int) : Int := instant + halfMinutes * 30000

/-- A target that starts at an instant. -/
def buildResponseTargetSnapshot (targetKind : ResponseTargetKind) (policy : ResponseTargetPolicy)
    (startAt : Int) : Except InboxError ResponseTargetSnapshot :=
  (assertPolicy policy).map fun _ ↦
    let dueAt := addHalfMinutes startAt (2 * policy.durationMinutes)
    let halfwayAt := addHalfMinutes startAt policy.durationMinutes
    { targetKind := targetKind
      policy := policy
      startAt := startAt
      dueAt := dueAt
      reminders := [⟨.halfway, halfwayAt⟩, ⟨.targetPassed, dueAt⟩] }

/-- A halfway reminder gets a slot only while it is still ahead of the moment its target is
recorded. -/
def schedulableReminders (snapshot : ResponseTargetSnapshot) (recordedAt : Int) :
    List TargetReminder :=
  snapshot.reminders.filter fun reminder ↦
    reminder.kind == .targetPassed || decide (recordedAt < reminder.scheduledFor)

/-- Once the target itself has passed, a halfway reminder still waiting is superseded. -/
def isSupersededReminder (reminderKind : ResponseTargetReminderKind) (dueAt now : Int) : Bool :=
  reminderKind == .halfway && decide (dueAt ≤ now)

/-! ## The decision -/

/-- How long a reminder may be held back while Google cannot be read. -/
def reminderGoogleCheckDelayCapMs : Int := 15 * 60000

/-- Whether Google shows a reply. -/
inductive GoogleReplyState
  | live
  | absent
  deriving DecidableEq, Repr

/-- What Google's reply is to the reply that was sent. -/
inductive GoogleReplyResolution
  | confirmedOnGoogle
  | externalCurrentLive
  | diverged
  | absent
  | unchanged
  deriving DecidableEq, Repr

/-- The part of the Google reply head the release decision reads. -/
structure ReminderReplyHead where
  state : GoogleReplyState
  resolution : GoogleReplyResolution
  materialReviewRevision : Int
  observedAt : Int
  deriving DecidableEq, Repr

/-- Google shows a reply that answers the review. Follows
`src/src/contexts/inbox/domain/rules.ts:59–71`. -/
def isAnsweringGoogleReply (head : ReminderReplyHead) : Bool :=
  head.state == .live &&
    (head.resolution == .confirmedOnGoogle || head.resolution == .externalCurrentLive)

/-- What reading Google for one review came to, as far as the decision cares. -/
inductive ReminderGoogleCheckOutcome
  | read
  | replyUnreadable
  | reviewMissing
  | transientFailure
  | permanentFailure
  | notCheckable
  deriving DecidableEq, Repr

/-- When the cycle's target started, and the revision the cycle measures. -/
structure HoldScope where
  targetStartAt : Option Int
  cycleMaterialReviewRevision : Int
  deriving DecidableEq, Repr

/-- Whether Google already shows the reply that answers this cycle. -/
def holdsForAnsweringReply (scope : HoldScope) (head : Option ReminderReplyHead) : Bool :=
  match head, scope.targetStartAt with
  | some head, some targetStartAt =>
      isAnsweringGoogleReply head &&
        head.materialReviewRevision == scope.cycleMaterialReviewRevision &&
        decide (targetStartAt ≤ head.observedAt)
  | _, _ => false

/-- What to do with a due reminder before any call to Google. -/
inductive ReminderReleasePlan
  | releaseUnchecked
  | holdLocal
  | check
  deriving DecidableEq, Repr

/-- Plan one due reminder. -/
def planReminderRelease (scope : HoldScope) (targetKind : ResponseTargetKind)
    (reminderKind : ResponseTargetReminderKind) (targetDueAt : Option Int) (now : Int)
    (head : Option ReminderReplyHead) : ReminderReleasePlan :=
  if targetKind ≠ .googleReviewResponse then .releaseUnchecked
  else if targetDueAt.any fun dueAt ↦ isSupersededReminder reminderKind dueAt now then
    .releaseUnchecked
  else if holdsForAnsweringReply scope head then .holdLocal
  else .check

/-- The decision after one attempt to read Google. -/
inductive ReminderDecision
  | hold
  | defer
  | release
  deriving DecidableEq, Repr

/-- Decide one reminder after an attempt to read Google. Every case where Google cannot settle the
question ends in a prompt. -/
def decideReminderAfterGoogleCheck (scope : HoldScope) (outcome : ReminderGoogleCheckOutcome)
    (head : Option ReminderReplyHead) (scheduledFor now : Int) : ReminderDecision :=
  match outcome with
  | .read => if holdsForAnsweringReply scope head then .hold else .release
  | .transientFailure | .reviewMissing =>
      if now < scheduledFor + reminderGoogleCheckDelayCapMs then .defer else .release
  | .replyUnreadable | .permanentFailure | .notCheckable => .release

/-! ## The rows of one target -/

/-- What became of a slot. -/
inductive SlotState
  | pending
  | delivered (deliveredAt : Int)
  | cancelled (cancelledAt : Int)
  deriving DecidableEq, Repr

/-- A reminder slot. -/
structure ReminderSlot where
  scheduledFor : Int
  state : SlotState
  deriving DecidableEq, Repr

/-- The fact a delivered reminder queues. -/
structure ReminderFact where
  reminderKind : ResponseTargetReminderKind
  scheduledFor : Int
  occurredAt : Int
  deriving DecidableEq, Repr

/-- The rows of one measured target: at most one slot of each kind, and the facts queued for it,
newest first. -/
structure TargetRows where
  targetKind : ResponseTargetKind
  sourceRevision : Int
  startAt : Int
  dueAt : Int
  halfway : Option ReminderSlot
  targetPassed : Option ReminderSlot
  facts : List ReminderFact
  deriving DecidableEq, Repr

namespace TargetRows

/-- The slot of a kind. -/
def slot (rows : TargetRows) : ResponseTargetReminderKind → Option ReminderSlot
  | .halfway => rows.halfway
  | .targetPassed => rows.targetPassed

/-- The rows with the slot of a kind replaced. -/
def setSlot (rows : TargetRows) (kind : ResponseTargetReminderKind) (slot : ReminderSlot) :
    TargetRows :=
  match kind with
  | .halfway => { rows with halfway := some slot }
  | .targetPassed => { rows with targetPassed := some slot }

/-- The rows a snapshot is recorded as. -/
def record (snapshot : ResponseTargetSnapshot) (sourceRevision recordedAt : Int) : TargetRows :=
  let slotOf := fun kind ↦
    ((schedulableReminders snapshot recordedAt).find? (·.kind == kind)).map fun reminder ↦
      (⟨reminder.scheduledFor, .pending⟩ : ReminderSlot)
  { targetKind := snapshot.targetKind
    sourceRevision := sourceRevision
    startAt := snapshot.startAt
    dueAt := snapshot.dueAt
    halfway := slotOf .halfway
    targetPassed := slotOf .targetPassed
    facts := [] }

/-- The slot of a kind, while it is pending and due. -/
def dueSlot (rows : TargetRows) (kind : ResponseTargetReminderKind) (now : Int) :
    Option ReminderSlot :=
  (rows.slot kind).filter fun slot ↦ slot.state == .pending && decide (slot.scheduledFor ≤ now)

/-- When the target started and what it measures. -/
def scope (rows : TargetRows) : HoldScope := ⟨some rows.startAt, rows.sourceRevision⟩

end TargetRows

/-- What a tick did with a slot. -/
inductive SlotOutcome
  | released
  | cancelledSuperseded
  | skipped
  | heldLocal
  | heldAfterRead
  | deferred
  | outOfReads
  | failed
  deriving DecidableEq, Repr

/-- Deliver, or for a superseded halfway cancel, a slot whose target is locked. -/
def settleLockedSlot (rows : TargetRows) (kind : ResponseTargetReminderKind) (slot : ReminderSlot)
    (now : Int) : SlotOutcome × TargetRows :=
  if isSupersededReminder kind rows.dueAt now then
    (.cancelledSuperseded, rows.setSlot kind { slot with state := .cancelled now })
  else
    (.released,
      { rows.setSlot kind { slot with state := .delivered now } with
        facts := ⟨kind, slot.scheduledFor, now⟩ :: rows.facts })

/-! ## Ticks -/

/-- A lookup of reply heads. -/
inductive HeadLookup
  | found (head : Option ReminderReplyHead)
  | failed
  deriving DecidableEq, Repr

/-- Why a review cannot be checked. -/
inductive NotCheckableReason
  | reviewUnavailable
  | contentExpired
  | scopeMismatch
  | propertyNotBound
  | capabilityOff
  | noProvider
  | sourceMoved
  deriving DecidableEq, Repr

/-- How one read of a review from Google went. -/
inductive GoogleReviewCheckOutcome
  | read
  | replyUnreadable
  | reviewMissing
  | notCheckable (reason : NotCheckableReason)
  | unavailable (retryLater : Bool)
  deriving DecidableEq, Repr

/-- The outcome as the decision reads it. -/
def toDecisionOutcome : GoogleReviewCheckOutcome → ReminderGoogleCheckOutcome
  | .read => .read
  | .replyUnreadable => .replyUnreadable
  | .reviewMissing => .reviewMissing
  | .notCheckable _ => .notCheckable
  | .unavailable false => .permanentFailure
  | .unavailable true => .transientFailure

/-- What a tick meets for one slot: whether it is among the slots the tick lists, the reply heads
it finds, whether Google reads are left when its turn comes, how the read and the lookup after it
go, when it is decided, and whether the store finds its target unlocked and still standing. A read
that throws is one that may work later. -/
structure SlotTick where
  listed : Bool
  heads : HeadLookup
  readsLeft : Bool
  check : GoogleReviewCheckOutcome
  headsAfterRead : HeadLookup
  decidedAt : Int
  reachesRow : Bool
  deriving DecidableEq, Repr

/-- Release one slot: the store decides again whether it is pending and due. -/
def releaseSlot (rows : TargetRows) (kind : ResponseTargetReminderKind) (c : SlotTick) :
    SlotOutcome × TargetRows :=
  match rows.dueSlot kind c.decidedAt with
  | some slot =>
      if c.reachesRow then settleLockedSlot rows kind slot c.decidedAt else (.skipped, rows)
  | none => (.skipped, rows)

/-- A slot whose reply head could not be read. -/
def afterLookupFailure (rows : TargetRows) (kind : ResponseTargetReminderKind)
    (slot : ReminderSlot) (c : SlotTick) : SlotOutcome × TargetRows :=
  match decideReminderAfterGoogleCheck rows.scope .transientFailure none slot.scheduledFor
      c.decidedAt with
  | .release => releaseSlot rows kind c
  | _ => (.failed, rows)

/-- Read Google for one slot, then hold, defer or release it. -/
def checkSlot (rows : TargetRows) (kind : ResponseTargetReminderKind) (slot : ReminderSlot)
    (c : SlotTick) : SlotOutcome × TargetRows :=
  match if c.check = .read then c.headsAfterRead else HeadLookup.found none with
  | .failed => afterLookupFailure rows kind slot c
  | .found head =>
      match decideReminderAfterGoogleCheck rows.scope (toDecisionOutcome c.check) head
          slot.scheduledFor c.decidedAt with
      | .hold => (.heldAfterRead, rows)
      | .defer => (.deferred, rows)
      | .release => releaseSlot rows kind c

/-- The heads a plan is made with: a failed lookup finds none. -/
def HeadLookup.head : HeadLookup → Option ReminderReplyHead
  | .found head => head
  | .failed => none

/-- Carry out the plan for one slot. -/
def followPlan (rows : TargetRows) (kind : ResponseTargetReminderKind) (slot : ReminderSlot)
    (c : SlotTick) : ReminderReleasePlan → SlotOutcome × TargetRows
  | .releaseUnchecked => releaseSlot rows kind c
  | .holdLocal => (.heldLocal, rows)
  | .check =>
      if c.heads = .failed then afterLookupFailure rows kind slot c
      else if c.readsLeft then checkSlot rows kind slot c
      else (.outOfReads, rows)

/-- What one tick does with one slot; nothing where the slot is not due or not listed. -/
def tickSlot (rows : TargetRows) (kind : ResponseTargetReminderKind) (startedAt : Int)
    (c : SlotTick) : Option (SlotOutcome × TargetRows) :=
  ((rows.dueSlot kind startedAt).filter fun _ ↦ c.listed).map fun slot ↦
    followPlan rows kind slot c
      (planReminderRelease rows.scope rows.targetKind kind (some rows.dueAt) startedAt
        c.heads.head)

end ReputationKey.Inbox
