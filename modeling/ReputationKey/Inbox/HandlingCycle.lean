import ReputationKey.Review.ReplyComment

/-!
# Handling Cycles

One numbered work episode of an inbox item, the head that points at the current one and the
transitions recorded for them. A number that is not an integer is refused as a negative one is, so
revisions are integers; times are epoch milliseconds. Follows
`src/src/contexts/inbox/domain/handling-cycles.ts:33–413` and
`src/src/contexts/inbox/domain/types.ts:13–130`.
-/

namespace ReputationKey.Inbox

open ReputationKey.Review (Text trim)

/-- Whether an item or a cycle still needs work. -/
inductive InboxStatus
  | «open»
  | closed
  deriving DecidableEq, Repr

/-- What an inbox item is about. -/
inductive SourceType
  | review
  | feedback
  deriving DecidableEq, Repr

/-- Why a cycle was opened. -/
inductive HandlingCycleOpenReason
  | legacyBackfill
  | reviewObserved
  | feedbackSubmitted
  | materialRevisionChanged
  | manualReopen
  | providerReplyDeleted
  | providerReplyDiverged
  deriving DecidableEq, Repr

/-- Why a cycle was closed. -/
inductive HandlingCycleCloseReason
  | confirmedOnGoogle
  | externalReplyObserved
  | guestWithdrawn
  | privateFeedbackHandled
  | sourceIneligible
  | supersededBySourceRevision
  deriving DecidableEq, Repr

/-- What a transition does. -/
inductive HandlingCycleTransitionKind
  | opened
  | closed
  | reopened
  deriving DecidableEq, Repr

/-- Who caused a transition. -/
inductive HandlingCycleActorType
  | user
  | guest
  | provider
  | system
  deriving DecidableEq, Repr

/-- Why a person reopened a cycle. -/
inductive ManualReopenReason
  | guestFollowUpStillNeeded
  | internalFollowUpStillNeeded
  | newInformation
  | correctingHandlingStatus
  | other
  deriving DecidableEq, Repr

/-- The reason a transition records: one of three kinds of reason. -/
inductive TransitionReason
  | openReason (reason : HandlingCycleOpenReason)
  | closeReason (reason : HandlingCycleCloseReason)
  | manualReopenReason (reason : ManualReopenReason)
  deriving DecidableEq, Repr

/-- The item and the source a cycle belongs to. -/
structure CycleScope where
  inboxItemId : Nat
  organizationId : Nat
  propertyId : Nat
  sourceType : SourceType
  sourceId : Nat
  deriving DecidableEq, Repr

/-- Immutable opening record for one numbered source work episode. -/
structure HandlingCycle extends CycleScope where
  cycleNumber : Int
  sourceRevision : Int
  openedReason : HandlingCycleOpenReason
  manualReopenReason : Option ManualReopenReason
  manualReopenExplanation : Option Text
  supersedesCycleNumber : Option Int
  openedBy : Option Nat
  openedAt : Int
  deriving DecidableEq, Repr

/-- Mutable, revision-fenced pointer to the one current actionable cycle. -/
structure HandlingCycleHead extends CycleScope where
  currentCycleNumber : Int
  currentSourceRevision : Int
  stateRevision : Int
  status : InboxStatus
  deriving DecidableEq, Repr

/-- Append-only lifecycle evidence. -/
structure HandlingCycleTransition extends CycleScope where
  cycleNumber : Int
  stateRevision : Int
  sourceRevision : Int
  kind : HandlingCycleTransitionKind
  transitionReason : TransitionReason
  actorType : HandlingCycleActorType
  actorUserId : Option Nat
  triggerEventId : Option String
  transitionedAt : Int
  deriving DecidableEq, Repr

/-- What an accepted opening leaves. -/
structure HandlingCycleDecision where
  cycle : HandlingCycle
  head : HandlingCycleHead
  transitions : List HandlingCycleTransition
  deriving DecidableEq, Repr

/-- The codes of the errors below. -/
inductive InboxErrorCode
  | invalidTransition
  | invalidInput
  | revisionConflict
  deriving DecidableEq, Repr

/-- A refused decision. -/
structure InboxError where
  code : InboxErrorCode
  message : String
  context : List (String × Int)
  deriving DecidableEq, Repr

/-- An error of the input, without context. -/
def invalidInput (message : String) : InboxError := ⟨.invalidInput, message, []⟩

/-- The largest integer a JavaScript number counts up to exactly. -/
def maxSafeInteger : Int := 9007199254740991

/-- Whether a revision is one. -/
def isPositiveSafeInteger (value : Int) : Bool :=
  decide (-maxSafeInteger ≤ value) && decide (value ≤ maxSafeInteger) && decide (0 < value)

/-! ## The first cycle -/

/-- What the first cycle of an item is created from; its opening reason is one of the first
three. -/
structure CreateInitialHandlingCycleInput extends CycleScope where
  sourceRevision : Int
  openedReason : HandlingCycleOpenReason
  actorType : HandlingCycleActorType
  triggerEventId : Option String
  openedAt : Int
  status : InboxStatus
  mayOpenFirst : openedReason = .legacyBackfill ∨ openedReason = .reviewObserved ∨
    openedReason = .feedbackSubmitted
  deriving DecidableEq

/-- Build cycle one. -/
def createInitialHandlingCycle (input : CreateInitialHandlingCycleInput) :
    Except InboxError HandlingCycleDecision :=
  if !isPositiveSafeInteger input.sourceRevision then
    .error ⟨.invalidInput, "Handling Cycle source revision must be positive",
      [("sourceRevision", input.sourceRevision)]⟩
  else if (input.sourceType = .review ∧ input.openedReason = .feedbackSubmitted) ∨
      (input.sourceType = .feedback ∧ input.openedReason = .reviewObserved) then
    .error (invalidInput "Handling Cycle opening reason does not match source")
  else
    .ok
      { cycle :=
          { input.toCycleScope with
            cycleNumber := 1
            sourceRevision := input.sourceRevision
            openedReason := input.openedReason
            manualReopenReason := none
            manualReopenExplanation := none
            supersedesCycleNumber := none
            openedBy := none
            openedAt := input.openedAt }
        head :=
          { input.toCycleScope with
            currentCycleNumber := 1
            currentSourceRevision := input.sourceRevision
            stateRevision := 1
            status := input.status }
        transitions :=
          [{ input.toCycleScope with
              cycleNumber := 1
              stateRevision := 1
              sourceRevision := input.sourceRevision
              kind := .opened
              transitionReason := .openReason input.openedReason
              actorType := input.actorType
              actorUserId := none
              triggerEventId := input.triggerEventId
              transitionedAt := input.openedAt }] }

/-! ## The next cycle -/

/-- What the next cycle of an item is created from, beside its head; its opening reason is one of
the last five. A missing reason is `none`, an explanation given as `null` is `some none`. -/
structure NextHandlingCycle where
  sourceRevision : Int
  openedReason : HandlingCycleOpenReason
  manualReopenReason : Option ManualReopenReason
  manualReopenExplanation : Option (Option Text)
  openedBy : Option Nat
  actorType : HandlingCycleActorType
  triggerEventId : Option String
  openedAt : Int
  mayOpenNext : openedReason ≠ .legacyBackfill ∧ openedReason ≠ .reviewObserved
  deriving DecidableEq

/-- What the next cycle of an item is created from. -/
structure CreateNextHandlingCycleInput extends NextHandlingCycle where
  current : HandlingCycleHead
  deriving DecidableEq

/-- The human reason and explanation a cycle carries, if it was reopened by hand. -/
structure ManualReopenAttribution where
  manualReopenReason : Option ManualReopenReason
  manualReopenExplanation : Option Text
  deriving DecidableEq, Repr

/-- What a cycle carries that was not reopened by hand. -/
def noManualReopen : ManualReopenAttribution := ⟨none, none⟩

/-- Manual reopen is the only opening reason that may carry a human reason, and only when a user
actor reopened a closed cycle. -/
def resolveManualReopenAttribution (input : CreateNextHandlingCycleInput) :
    Except InboxError ManualReopenAttribution :=
  if input.openedReason ≠ .manualReopen then
    if input.manualReopenReason ≠ none ∨ input.manualReopenExplanation ≠ none then
      .error (invalidInput "System-opened cycles cannot carry a reopen reason")
    else .ok noManualReopen
  else if input.current.status ≠ .closed then
    .error (invalidInput "Only a closed Handling Cycle can be reopened")
  else if input.openedBy = none then
    .error (invalidInput "A manual reopen requires an actor")
  else if input.actorType ≠ .user then
    .error (invalidInput "A manual reopen requires a user actor")
  else
    match input.manualReopenReason with
    | none => .error (invalidInput "A manual reopen reason is required")
    | some .other =>
        let explanation := (input.manualReopenExplanation.join.map trim).getD []
        if explanation.length < 1 ∨ 280 < explanation.length then
          .error (invalidInput "Other manual reopen reason requires a short explanation")
        else .ok ⟨some .other, some explanation⟩
    | some reason =>
        if input.manualReopenExplanation.join ≠ none then
          .error (invalidInput "A manual reopen explanation is only valid for Other")
        else .ok ⟨some reason, none⟩

/-- Whether an opening reason advances the revision of the source. -/
def HandlingCycleOpenReason.advancesSource : HandlingCycleOpenReason → Bool
  | .materialRevisionChanged | .feedbackSubmitted => true
  | _ => false

/-- Each opening reason has its own rule about the source it may open against. -/
def findOpenedReasonViolation (input : CreateNextHandlingCycleInput) : Option InboxError :=
  if input.openedReason = .materialRevisionChanged ∧
      (input.current.sourceType ≠ .review ∨
        input.sourceRevision ≤ input.current.currentSourceRevision) then
    some ⟨.invalidInput, "A material-change cycle must advance the Material Review Revision",
      [("currentSourceRevision", input.current.currentSourceRevision),
        ("requestedSourceRevision", input.sourceRevision)]⟩
  else if input.openedReason = .feedbackSubmitted ∧
      (input.current.sourceType ≠ .feedback ∨
        input.sourceRevision ≤ input.current.currentSourceRevision) then
    some (invalidInput "A new private-feedback occurrence must advance the Guest revision")
  else if (input.openedReason = .providerReplyDeleted ∨
        input.openedReason = .providerReplyDiverged) ∧
      input.current.status ≠ .closed then
    some (invalidInput "Only a closed Handling Cycle can be reopened")
  else if input.openedReason ≠ .materialRevisionChanged ∧
      input.openedReason ≠ .feedbackSubmitted ∧
      input.sourceRevision ≠ input.current.currentSourceRevision then
    some ⟨.invalidInput, "A same-source reopen must keep the current Material Review Revision",
      [("currentSourceRevision", input.current.currentSourceRevision),
        ("requestedSourceRevision", input.sourceRevision)]⟩
  else none

/-- Whether the next cycle opens new work or reopens work someone had finished. -/
def nextCycleTransitionKind (input : CreateNextHandlingCycleInput) :
    HandlingCycleTransitionKind :=
  match input.openedReason with
  | .feedbackSubmitted => .opened
  | .materialRevisionChanged => if input.current.status = .closed then .reopened else .opened
  | _ => .reopened

/-- The transition that closes a cycle another one supersedes. -/
def supersededTransition (input : CreateNextHandlingCycleInput) : HandlingCycleTransition :=
  { input.current.toCycleScope with
    cycleNumber := input.current.currentCycleNumber
    stateRevision := input.current.stateRevision + 1
    sourceRevision := input.current.currentSourceRevision
    kind := .closed
    transitionReason := .closeReason .supersededBySourceRevision
    actorType := input.actorType
    actorUserId := input.openedBy
    triggerEventId := input.triggerEventId
    transitionedAt := input.openedAt }

/-- Decide the next append-only cycle and head. -/
def createNextHandlingCycle (input : CreateNextHandlingCycleInput) :
    Except InboxError HandlingCycleDecision :=
  let current := input.current
  if !isPositiveSafeInteger current.currentCycleNumber ||
      !isPositiveSafeInteger current.currentSourceRevision ||
      !isPositiveSafeInteger current.stateRevision ||
      !isPositiveSafeInteger input.sourceRevision then
    .error (invalidInput "Handling Cycle revisions must be positive")
  else
    match resolveManualReopenAttribution input with
    | .error e => .error e
    | .ok attribution =>
        match findOpenedReasonViolation input with
        | some violation => .error violation
        | none =>
            let closesCurrent := current.status = .open
            let cycleNumber := current.currentCycleNumber + 1
            let stateRevision := current.stateRevision + if closesCurrent then 2 else 1
            if !isPositiveSafeInteger cycleNumber || !isPositiveSafeInteger stateRevision then
              .error (invalidInput "Handling Cycle revision limit reached")
            else
              .ok
                { cycle :=
                    { current.toCycleScope with
                      cycleNumber := cycleNumber
                      sourceRevision := input.sourceRevision
                      openedReason := input.openedReason
                      manualReopenReason := attribution.manualReopenReason
                      manualReopenExplanation := attribution.manualReopenExplanation
                      supersedesCycleNumber := some current.currentCycleNumber
                      openedBy := input.openedBy
                      openedAt := input.openedAt }
                  head :=
                    { current with
                      currentCycleNumber := cycleNumber
                      currentSourceRevision := input.sourceRevision
                      stateRevision := stateRevision
                      status := .open }
                  transitions :=
                    (if closesCurrent then [supersededTransition input] else []) ++
                      [{ current.toCycleScope with
                          cycleNumber := cycleNumber
                          stateRevision := stateRevision
                          sourceRevision := input.sourceRevision
                          kind := nextCycleTransitionKind input
                          transitionReason :=
                            (if input.openedReason = .manualReopen then
                              attribution.manualReopenReason.map .manualReopenReason
                            else none).getD (.openReason input.openedReason)
                          actorType := input.actorType
                          actorUserId := input.openedBy
                          triggerEventId := input.triggerEventId
                          transitionedAt := input.openedAt }] }

/-! ## Closing -/

/-- What a cycle is closed with, beside its head. -/
structure CloseHandlingCycle where
  closeReason : HandlingCycleCloseReason
  actorType : HandlingCycleActorType
  actorUserId : Option Nat
  triggerEventId : Option String
  closedAt : Int
  deriving DecidableEq, Repr

/-- What a cycle is closed with. -/
structure CloseHandlingCycleInput extends CloseHandlingCycle where
  current : HandlingCycleHead
  deriving DecidableEq, Repr

/-- What an accepted close leaves. -/
structure CloseDecision where
  head : HandlingCycleHead
  transition : HandlingCycleTransition
  deriving DecidableEq, Repr

/-- Close the current cycle. -/
def closeHandlingCycle (input : CloseHandlingCycleInput) : Except InboxError CloseDecision :=
  let current := input.current
  if current.status ≠ .open then
    .error ⟨.invalidTransition, "Handling Cycle is already closed", []⟩
  else if (input.actorType == .user) != input.actorUserId.isSome then
    .error (invalidInput "Handling Cycle actor attribution is invalid")
  else
    let stateRevision := current.stateRevision + 1
    if !isPositiveSafeInteger stateRevision then
      .error (invalidInput "Handling Cycle revision limit reached")
    else
      .ok
        { head := { current with stateRevision := stateRevision, status := .closed }
          transition :=
            { current.toCycleScope with
              cycleNumber := current.currentCycleNumber
              stateRevision := stateRevision
              sourceRevision := current.currentSourceRevision
              kind := .closed
              transitionReason := .closeReason input.closeReason
              actorType := input.actorType
              actorUserId := input.actorUserId
              triggerEventId := input.triggerEventId
              transitionedAt := input.closedAt } }

end ReputationKey.Inbox
