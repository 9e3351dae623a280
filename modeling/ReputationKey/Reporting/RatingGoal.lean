/-!
# Property rating goals: their evaluation and its notices

A goal climbs to a tenth Google shows or keeps one. Each evaluation finds the goal's status, decides
what its managers are told, and stores what a later evaluation compares with. Times are epoch
milliseconds. Follows `src/src/contexts/reporting/domain/rating-goal.ts`,
`src/src/contexts/reporting/domain/rating-goal-status.ts`,
`src/src/contexts/reporting/domain/rating-goal-notices.ts` and
`src/src/contexts/reporting/application/rating-goal-evaluation.ts`.
-/

namespace ReputationKey.Reporting

/-! ## Goals -/

/-- Whether a goal aims at a tenth Google does not show yet or holds one it shows. -/
inductive RatingGoalMode
  | climb
  | keep
  deriving DecidableEq, Repr

/-- Whether a goal still runs. -/
inductive RatingGoalState
  | active
  | reached
  | ended
  deriving DecidableEq, Repr

/-- Why a goal ended without being reached. -/
inductive RatingGoalEndedReason
  | manager
  | googleLocationChanged
  | propertyArchived
  deriving DecidableEq, Repr

/-- What an evaluation finds. -/
inductive RatingGoalStatus
  | waitingForGoogle
  | reached
  | reviewsTooLow
  | gettingStarted
  | onPace
  | belowPace
  | holding
  | droppedBelow
  deriving DecidableEq, Repr

/-- What a manager plans. A keep goal has no quality and no pace. -/
structure RatingGoalPlan where
  mode : RatingGoalMode
  targetTenths : Nat
  qualityTenths : Option Nat
  paceTenthsPerWeek : Option Nat
  deriving DecidableEq, Repr

/-- What the last evaluation stored. -/
structure RatingGoalEvaluationMark where
  displayedTenths : Option Nat
  status : Option RatingGoalStatus
  evaluatedAt : Option Int
  knownStatus : Option RatingGoalStatus
  belowPaceNoticedAt : Option Int
  tooLowNoticedAt : Option Int
  deriving DecidableEq, Repr

/-- A goal as it is stored. -/
structure PropertyRatingGoal extends RatingGoalPlan where
  sourceEpoch : Nat
  state : RatingGoalState
  endedReason : Option RatingGoalEndedReason
  lastEvaluation : RatingGoalEvaluationMark
  reachedAt : Option Int
  endedAt : Option Int
  createdAt : Int
  updatedAt : Int
  paceSince : Int
  version : Nat
  deriving DecidableEq, Repr

/-- Whether a change of plan forgets the status the goal knew. -/
def changeForgetsKnownStatus (current next : RatingGoalPlan) : Bool :=
  decide (current.mode ≠ next.mode) || decide (current.targetTenths ≠ next.targetTenths) ||
    decide (current.paceTenthsPerWeek = next.paceTenthsPerWeek)

/-- When the pace a change of plan leaves came into force. -/
def paceSinceAfter (goal : PropertyRatingGoal) (next : RatingGoalPlan) (changedAt : Int) : Int :=
  if goal.paceTenthsPerWeek = next.paceTenthsPerWeek then goal.paceSince else changedAt

/-- A manager changes the plan of an active goal. -/
def changePlan (goal : PropertyRatingGoal) (plan : RatingGoalPlan) (changedAt : Int) :
    PropertyRatingGoal :=
  if goal.state ≠ .active then goal
  else if goal.toRatingGoalPlan = plan then goal
  else
    { goal with
      toRatingGoalPlan := plan
      paceSince := paceSinceAfter goal plan changedAt
      lastEvaluation :=
        if changeForgetsKnownStatus goal.toRatingGoalPlan plan then
          { goal.lastEvaluation with knownStatus := none }
        else goal.lastEvaluation
      version := goal.version + 1
      updatedAt := changedAt }

/-! ## The status -/

/-- A day in milliseconds. -/
def dayMs : Int := 24 * 60 * 60 * 1000

/-- A week in milliseconds. -/
def weekMs : Int := 7 * dayMs

/-- A goal is getting started for this many days. -/
def gettingStartedDays : Int := 14

/-- The pace window grows until it is this many days long. -/
def fullPaceWindowDays : Int := 28

/-- On pace at this share of the chosen pace or more. -/
def onPacePercent : Int := 90

/-- New reviews are judged on their own average from this many. -/
def qualityVerdictMinReviews : Nat := 10

/-- A count of ratings and the sum of their stars. -/
structure RatingTotals where
  count : Nat
  sum : Nat
  deriving DecidableEq, Repr

/-- The days a pace is judged on. -/
structure PaceWindow where
  start : Int
  finish : Int
  deriving DecidableEq, Repr

/-- The window a goal's pace is judged on, or none while it is getting started. -/
def statusPaceWindow (paceSince now : Int) : Option PaceWindow :=
  if now - paceSince < gettingStartedDays * dayMs then none
  else
    some ⟨if fullPaceWindowDays * dayMs ≤ now - paceSince then now - fullPaceWindowDays * dayMs
      else paceSince, now⟩

/-- Getting started again because a manager changed the pace: the pace is young and the goal is
not. -/
def restartsAfterPaceChange (goal : PropertyRatingGoal) (now : Int) : Bool :=
  decide (now - goal.paceSince < gettingStartedDays * dayMs) &&
    decide (gettingStartedDays * dayMs ≤ now - goal.createdAt)

/-- Whether the reviews of a window keep the chosen pace, in exact integers. -/
def isOnPace (reviews : Nat) (window : PaceWindow) (chosenTenthsPerWeek : Nat) : Bool :=
  decide (onPacePercent * chosenTenthsPerWeek * (window.finish - window.start) ≤
    reviews * weekMs * 1000)

/-- The exact average at which Google starts to show a tenth, in thousandths. -/
def thresholdThousandths (targetTenths : Nat) : Int := targetTenths * 100 - 50

/-- Whether an average is above the target's threshold. -/
def clearsThreshold (average : Rat) (targetTenths : Nat) : Bool :=
  decide (mkRat (thresholdThousandths targetTenths) 1000 < average)

/-- Ten or more reviews since the set average at or below the target's threshold. -/
def reviewsTooLow (sinceSet : RatingTotals) (targetTenths : Nat) : Bool :=
  !decide (sinceSet.count < qualityVerdictMinReviews) &&
    !clearsThreshold (mkRat sinceSet.sum sinceSet.count) targetTenths

/-- The status of a climb goal. -/
def climbStatus (waiting : Bool) (displayedTenths targetTenths : Nat) (sinceSet : RatingTotals)
    (paceSince now : Int) (chosenTenthsPerWeek : Nat) (reviewsInPaceWindow : Option Nat) :
    RatingGoalStatus :=
  if waiting then .waitingForGoogle
  else if targetTenths ≤ displayedTenths then .reached
  else if reviewsTooLow sinceSet targetTenths then .reviewsTooLow
  else
    match statusPaceWindow paceSince now, reviewsInPaceWindow with
    | some window, some reviews =>
        if isOnPace reviews window chosenTenthsPerWeek then .onPace else .belowPace
    | _, _ => .gettingStarted

/-- The status of a keep goal. -/
def keepStatus (waiting : Bool) (displayedTenths targetTenths : Nat) : RatingGoalStatus :=
  if waiting then .waitingForGoogle
  else if targetTenths ≤ displayedTenths then .holding else .droppedBelow

/-! ## The notices -/

/-- A goal tells its managers that it fell below pace, or that new reviews are too low, at most once
in this many days. -/
def noticeDays : Int := 14

/-- A pace that came into force this close to the set counts from the set. -/
def sameStartMs : Int := 60 * 1000

/-- Over which days a below-pace notice measured the reviews. -/
inductive RatingGoalPaceWindowKind
  | last4Weeks
  | sinceSet
  | sincePaceChange
  deriving DecidableEq, Repr

/-- One notice, with the figures its copy states. -/
inductive RatingGoalNotice
  | reached (targetTenths shownTenths : Nat)
  | googleRatingChanged (mode : RatingGoalMode) (targetTenths shownTenths previousTenths : Nat)
  | enteredBelowPace (targetTenths paceTenthsPerWeek pacePerWeek : Nat) (recentPaceTenths : Int)
      (paceWindow : RatingGoalPaceWindowKind)
  | enteredReviewsTooLow (targetTenths : Nat)
  | keepDroppedBelow (targetTenths shownTenths : Nat)
  deriving DecidableEq, Repr

/-- How an evaluation leaves the goal. -/
inductive RatingGoalOutcome
  | continues
  | reached
  | ended (reason : RatingGoalEndedReason)
  deriving DecidableEq, Repr

/-- What an evaluation finds. -/
structure RatingGoalEvaluation where
  status : RatingGoalStatus
  displayedTenths : Option Nat
  outcome : RatingGoalOutcome
  deriving DecidableEq, Repr

/-- The reviews of the window a pace was judged on. -/
structure PaceFacts where
  reviews : Nat
  window : PaceWindow
  deriving DecidableEq, Repr

/-- What the notices of an evaluation are worked out from. -/
structure RatingGoalNoticeInput where
  goal : PropertyRatingGoal
  evaluation : RatingGoalEvaluation
  pace : Option PaceFacts
  now : Int

/-- What an evaluation tells, and what it stores to compare with next. -/
structure RatingGoalNoticeDecision where
  notices : List RatingGoalNotice
  knownStatus : Option RatingGoalStatus
  belowPaceNoticedAt : Option Int
  tooLowNoticedAt : Option Int
  deriving DecidableEq, Repr

/-- The goal moved into a status from another status it knew. -/
def entered (known : Option RatingGoalStatus) (status : RatingGoalStatus) : Bool :=
  known.any fun known ↦ decide (known ≠ status)

/-- The managers were never told, or not within the last days. -/
def mayTell (noticedAt : Option Int) (now days : Int) : Bool :=
  noticedAt.all fun noticedAt ↦ decide (days * dayMs ≤ now - noticedAt)

/-- Reviews a week over the window, in tenths, rounded down. -/
def recentPaceTenths (reviews : Nat) (window : PaceWindow) : Int :=
  let windowMs := window.finish - window.start
  if windowMs ≤ 0 then 0 else (reviews * weekMs * 10) / windowMs

/-- The days a below-pace notice names. -/
def paceWindowKind (window : PaceWindow) (goal : PropertyRatingGoal) : RatingGoalPaceWindowKind :=
  if fullPaceWindowDays * dayMs ≤ window.finish - window.start then .last4Weeks
  else if goal.paceSince - goal.createdAt < sameStartMs then .sinceSet
  else .sincePaceChange

/-- The whole weekly mirror of a pace in tenths, half up and at least one. -/
def legacyPacePerWeek (tenthsPerWeek : Nat) : Nat := max 1 ((tenthsPerWeek + 5) / 10)

/-- The notice that Google shows another tenth. -/
def tenthNotice (input : RatingGoalNoticeInput) : Option RatingGoalNotice :=
  match input.goal.lastEvaluation.displayedTenths, input.evaluation.displayedTenths with
  | some previous, some shown =>
      if previous = shown then none
      else
        some (.googleRatingChanged input.goal.mode input.goal.targetTenths shown previous)
  | _, _ => none

/-- The notice that the goal fell below its pace. -/
def belowPaceNotice (input : RatingGoalNoticeInput) : Option RatingGoalNotice :=
  match input.pace, input.goal.paceTenthsPerWeek with
  | some pace, some paceTenthsPerWeek =>
      if mayTell input.goal.lastEvaluation.belowPaceNoticedAt input.now noticeDays then
        some (.enteredBelowPace input.goal.targetTenths paceTenthsPerWeek
          (legacyPacePerWeek paceTenthsPerWeek) (recentPaceTenths pace.reviews pace.window)
          (paceWindowKind pace.window input.goal))
      else none
  | _, _ => none

/-- The notice that new reviews are too low for the target. -/
def tooLowNotice (input : RatingGoalNoticeInput) : Option RatingGoalNotice :=
  if mayTell input.goal.lastEvaluation.tooLowNoticedAt input.now noticeDays then
    some (.enteredReviewsTooLow input.goal.targetTenths)
  else none

/-- The notice for a status the goal just entered, if it has one. -/
def statusNotice (input : RatingGoalNoticeInput) : Option RatingGoalNotice :=
  if entered input.goal.lastEvaluation.knownStatus input.evaluation.status then
    match input.evaluation.status with
    | .belowPace => belowPaceNotice input
    | .reviewsTooLow => tooLowNotice input
    | .droppedBelow =>
        input.evaluation.displayedTenths.map (.keepDroppedBelow input.goal.targetTenths)
    | _ => none
  else none

/-- A keep goal dropped below: the tenth lost is told by this notice. -/
def RatingGoalNotice.isKeepDroppedBelow : RatingGoalNotice → Bool
  | .keepDroppedBelow .. => true
  | _ => false

/-- The notice is the below-pace one. -/
def RatingGoalNotice.isEnteredBelowPace : RatingGoalNotice → Bool
  | .enteredBelowPace .. => true
  | _ => false

/-- The notice is the too-low one. -/
def RatingGoalNotice.isEnteredReviewsTooLow : RatingGoalNotice → Bool
  | .enteredReviewsTooLow .. => true
  | _ => false

/-- The notices of an evaluation that leaves the goal running, as the change happened. -/
def continuingNotices (input : RatingGoalNoticeInput) : List RatingGoalNotice :=
  let status := statusNotice input
  let tenth :=
    if status.any RatingGoalNotice.isKeepDroppedBelow then none else tenthNotice input
  tenth.toList ++ status.toList

/-- The notices of an evaluation. -/
def noticesFor (input : RatingGoalNoticeInput) : List RatingGoalNotice :=
  match input.evaluation.outcome with
  | .ended _ => []
  | .reached =>
      [.reached input.goal.targetTenths
        (input.evaluation.displayedTenths.getD input.goal.targetTenths)]
  | .continues => continuingNotices input

/-- A wait for Google, or the fresh start after a pace change, leaves the known status as it
was. -/
def keepsKnownStatus (input : RatingGoalNoticeInput) : Bool :=
  decide (input.evaluation.status = .waitingForGoogle) ||
    (decide (input.evaluation.status = .gettingStarted) &&
      restartsAfterPaceChange input.goal input.now)

/-- What an evaluation tells the goal's managers, and what it stores to compare with next. -/
def decideRatingGoalNotices (input : RatingGoalNoticeInput) : RatingGoalNoticeDecision :=
  let previous := input.goal.lastEvaluation
  match input.evaluation.outcome with
  | .ended _ =>
      { notices := []
        knownStatus := previous.knownStatus
        belowPaceNoticedAt := previous.belowPaceNoticedAt
        tooLowNoticedAt := previous.tooLowNoticedAt }
  | _ =>
      let notices := noticesFor input
      { notices := notices
        knownStatus :=
          if keepsKnownStatus input then previous.knownStatus else some input.evaluation.status
        belowPaceNoticedAt :=
          if notices.any RatingGoalNotice.isEnteredBelowPace then some input.now
          else previous.belowPaceNoticedAt
        tooLowNoticedAt :=
          if notices.any RatingGoalNotice.isEnteredReviewsTooLow then some input.now
          else previous.tooLowNoticedAt }

/-! ## The evaluation -/

/-- Where a Property is in its life. -/
inductive PropertyLifecycleState
  | active
  | suspended
  | archived
  | disconnecting
  | purgePending
  | purging
  | purged
  deriving DecidableEq, Repr

/-- The states in which a goal keeps running. -/
def PropertyLifecycleState.live : PropertyLifecycleState → Bool
  | .active | .suspended => true
  | _ => false

/-- The numbers of one Property that an evaluation reads. -/
structure RatingGoalReading where
  now : Int
  lifecycleState : PropertyLifecycleState
  sourceEpoch : Nat
  waiting : Bool
  /-- The tenth Google shows, when it has a snapshot and an average. -/
  displayedTenths : Option Nat
  sinceSet : Option RatingTotals
  deriving DecidableEq, Repr

/-- The status of a goal on a reading. -/
def goalStatus (goal : PropertyRatingGoal) (reading : RatingGoalReading)
    (reviewsInPaceWindow : Option Nat) : RatingGoalStatus :=
  let displayed := reading.displayedTenths.getD 0
  match goal.mode with
  | .keep => keepStatus reading.waiting displayed goal.targetTenths
  | .climb =>
      climbStatus reading.waiting displayed goal.targetTenths
        (reading.sinceSet.getD ⟨0, 0⟩) goal.paceSince reading.now
        (goal.paceTenthsPerWeek.getD 0) reviewsInPaceWindow

/-- What an active goal's evaluation finds. -/
def evaluateRatingGoal (goal : PropertyRatingGoal) (reading : RatingGoalReading)
    (reviewsInPaceWindow : Option Nat) : RatingGoalEvaluation :=
  let unchanged := goal.lastEvaluation.status.getD .waitingForGoogle
  if reading.lifecycleState.live = false then ⟨unchanged, none, .ended .propertyArchived⟩
  else if reading.sourceEpoch ≠ goal.sourceEpoch then
    ⟨unchanged, none, .ended .googleLocationChanged⟩
  else
    let status := goalStatus goal reading reviewsInPaceWindow
    ⟨status, if reading.waiting then none else reading.displayedTenths,
      if status = .reached then .reached else .continues⟩

/-- What an evaluation tells the goal's managers, against the goal as read. -/
def evaluationNotices (goal : PropertyRatingGoal) (evaluation : RatingGoalEvaluation)
    (pace : Option PaceFacts) (now : Int) : RatingGoalNoticeDecision :=
  decideRatingGoalNotices ⟨goal, evaluation, pace, now⟩

/-- The goal as it stands once an evaluation is stored. -/
def afterEvaluation (goal : PropertyRatingGoal) (evaluation : RatingGoalEvaluation)
    (decision : RatingGoalNoticeDecision) (now : Int) : PropertyRatingGoal :=
  let lastEvaluation : RatingGoalEvaluationMark :=
    { status := some evaluation.status
      displayedTenths := evaluation.displayedTenths.or goal.lastEvaluation.displayedTenths
      evaluatedAt := some now
      knownStatus := decision.knownStatus
      belowPaceNoticedAt := decision.belowPaceNoticedAt
      tooLowNoticedAt := decision.tooLowNoticedAt }
  match evaluation.outcome with
  | .continues => { goal with lastEvaluation := lastEvaluation, updatedAt := now }
  | .reached =>
      { goal with
        lastEvaluation := lastEvaluation
        state := .reached
        reachedAt := some now
        updatedAt := now }
  | .ended reason =>
      { goal with
        lastEvaluation := lastEvaluation
        state := .ended
        endedReason := some reason
        endedAt := some now
        updatedAt := now }

/-- One evaluation of an active goal: the goal as read, what was found and what was told. -/
structure EvaluatedRatingGoal where
  previous : PropertyRatingGoal
  evaluation : RatingGoalEvaluation
  notices : List RatingGoalNotice
  now : Int
  deriving DecidableEq, Repr

/-- Reads an active goal's numbers, its pace window included, and stores the evaluation. What the
review cache counts in a window is a parameter. -/
def evaluateActiveRatingGoal (goal : PropertyRatingGoal) (reading : RatingGoalReading)
    (reviewsIn : PaceWindow → Nat) : PropertyRatingGoal × EvaluatedRatingGoal :=
  let window := statusPaceWindow goal.paceSince reading.now
  let evaluation := evaluateRatingGoal goal reading (window.map reviewsIn)
  let decision :=
    evaluationNotices goal evaluation (window.map fun window ↦ ⟨reviewsIn window, window⟩)
      reading.now
  (afterEvaluation goal evaluation decision reading.now,
    ⟨goal, evaluation, decision.notices, reading.now⟩)

/-! ## Storing an evaluation -/

/-- The part of the stored evaluation that a notice was worked out against. -/
structure RatingGoalNoticeMark where
  displayedTenths : Option Nat
  knownStatus : Option RatingGoalStatus
  belowPaceNoticedAt : Option Int
  tooLowNoticedAt : Option Int
  deriving DecidableEq, Repr

/-- The mark of a stored goal. -/
def PropertyRatingGoal.noticeMark (goal : PropertyRatingGoal) : RatingGoalNoticeMark :=
  ⟨goal.lastEvaluation.displayedTenths, goal.lastEvaluation.knownStatus,
    goal.lastEvaluation.belowPaceNoticedAt, goal.lastEvaluation.tooLowNoticedAt⟩

/-- What an evaluation writes. -/
structure RatingGoalEvaluationWrite where
  expectedVersion : Nat
  expectedMark : RatingGoalNoticeMark
  status : RatingGoalStatus
  displayedTenths : Option Nat
  knownStatus : Option RatingGoalStatus
  belowPaceNoticedAt : Option Int
  tooLowNoticedAt : Option Int
  evaluatedAt : Int
  outcome : RatingGoalOutcome
  notices : List RatingGoalNotice
  deriving DecidableEq, Repr

/-- The write of an evaluation of a goal as read. -/
def evaluationWrite (goal : PropertyRatingGoal) (evaluation : RatingGoalEvaluation)
    (decision : RatingGoalNoticeDecision) (now : Int) : RatingGoalEvaluationWrite :=
  { expectedVersion := goal.version
    expectedMark := goal.noticeMark
    status := evaluation.status
    displayedTenths := evaluation.displayedTenths
    knownStatus := decision.knownStatus
    belowPaceNoticedAt := decision.belowPaceNoticedAt
    tooLowNoticedAt := decision.tooLowNoticedAt
    evaluatedAt := now
    outcome := evaluation.outcome
    notices := decision.notices }

/-- The write would change the stored row. -/
def evaluationChanges (row : PropertyRatingGoal) (write : RatingGoalEvaluationWrite) : Bool :=
  decide (write.outcome ≠ .continues) ||
    (decide (row.lastEvaluation.status ≠ some write.status) ||
      decide (row.lastEvaluation.knownStatus ≠ write.knownStatus) ||
      (write.displayedTenths.isSome &&
        decide (row.lastEvaluation.displayedTenths ≠ write.displayedTenths)))

/-- The row the write's `SET` leaves. -/
def evaluationSet (row : PropertyRatingGoal) (write : RatingGoalEvaluationWrite) :
    PropertyRatingGoal :=
  let stored : PropertyRatingGoal :=
    { row with
      lastEvaluation :=
        { displayedTenths := write.displayedTenths.or row.lastEvaluation.displayedTenths
          status := some write.status
          evaluatedAt := some write.evaluatedAt
          knownStatus := write.knownStatus
          belowPaceNoticedAt := write.belowPaceNoticedAt
          tooLowNoticedAt := write.tooLowNoticedAt }
      updatedAt := write.evaluatedAt }
  match write.outcome with
  | .continues => stored
  | .reached => { stored with state := .reached, reachedAt := some write.evaluatedAt }
  | .ended reason =>
      { stored with state := .ended, endedReason := some reason, endedAt := some write.evaluatedAt }

/-- The row a write leaves, or none when its guard refuses it. -/
def recordEvaluation (row : PropertyRatingGoal) (write : RatingGoalEvaluationWrite) :
    Option PropertyRatingGoal :=
  if row.state = .active ∧ row.version = write.expectedVersion ∧
      (row.lastEvaluation.evaluatedAt.all fun last ↦ decide (last ≤ write.evaluatedAt)) = true ∧
      row.noticeMark = write.expectedMark ∧ evaluationChanges row write = true then
    some (evaluationSet row write)
  else none

end ReputationKey.Reporting
