import ReputationKey.Base.Transducer
import ReputationKey.Reporting.RatingGoal

/-!
# What a rating goal tells over a run

A run evaluates one goal any number of times, with changes of its plan in between. Evaluations that
wait for Google may be put in or left out: what is told stays the same. Notices of one status are
two weeks apart, a status is told only from another known one, and the shown tenth is told from the
tenth last read.
-/

namespace ReputationKey.Reporting

open ReputationKey.Base

/-! ## Runs -/

/-- What may happen to an active goal. -/
inductive GoalEvent
  | evaluate (reading : RatingGoalReading) (reviewsIn : PaceWindow → Nat)
  | changePlan (plan : RatingGoalPlan) (changedAt : Int)

/-- A goal that was reached or ended is neither evaluated nor changed. -/
def ratingGoal : Transducer PropertyRatingGoal GoalEvent EvaluatedRatingGoal where
  step goal event :=
    match event with
    | .evaluate reading reviewsIn =>
        if goal.state ≠ .active then (goal, [])
        else
          ((evaluateActiveRatingGoal goal reading reviewsIn).1,
            [(evaluateActiveRatingGoal goal reading reviewsIn).2])
    | .changePlan plan changedAt => (changePlan goal plan changedAt, [])

/-- The notices of an evaluation, each with its time. -/
def EvaluatedRatingGoal.sent (evaluated : EvaluatedRatingGoal) : List (Int × RatingGoalNotice) :=
  evaluated.notices.map fun notice ↦ (evaluated.now, notice)

/-- The notices a run sends. -/
def sentNotices (goal : PropertyRatingGoal) (events : List GoalEvent) :
    List (Int × RatingGoalNotice) :=
  (ratingGoal.output goal events).flatMap EvaluatedRatingGoal.sent

/-- An evaluation of a running goal of this binding that waits for Google. -/
def GoalEvent.waitsForGoogle (sourceEpoch : Nat) : GoalEvent → Bool
  | .evaluate reading _ =>
      reading.lifecycleState.live && decide (reading.sourceEpoch = sourceEpoch) && reading.waiting
  | .changePlan .. => false

/-- Exactly these evaluations leave the goal running and find it waiting for Google. -/
theorem waitsForGoogle_iff (goal : PropertyRatingGoal) (reading : RatingGoalReading)
    (reviewsIn : PaceWindow → Nat) (reviewsInPaceWindow : Option Nat) :
    (GoalEvent.evaluate reading reviewsIn).waitsForGoogle goal.sourceEpoch = true ↔
      (evaluateRatingGoal goal reading reviewsInPaceWindow).status = .waitingForGoogle ∧
        (evaluateRatingGoal goal reading reviewsInPaceWindow).outcome = .continues := by
  unfold GoalEvent.waitsForGoogle evaluateRatingGoal
  cases hlive : reading.lifecycleState.live with
  | false => simp [hlive]
  | true =>
      by_cases hepoch : reading.sourceEpoch = goal.sourceEpoch
      · cases hwaiting : reading.waiting with
        | true => cases hmode : goal.mode <;>
            simp [hlive, hepoch, goalStatus, climbStatus, keepStatus, hmode, hwaiting]
        | false =>
            cases hmode : goal.mode <;>
              simp [hlive, hepoch, goalStatus, climbStatus, keepStatus, hmode, hwaiting] <;>
              grind
      · simp [hlive, hepoch]

/-! ## Waiting is silent -/

/-- A goal without what waiting moves: its last status, and when it was evaluated. -/
def PropertyRatingGoal.told (goal : PropertyRatingGoal) : PropertyRatingGoal :=
  { goal with
    lastEvaluation := { goal.lastEvaluation with status := none, evaluatedAt := none }
    updatedAt := 0 }

/-- A change of plan does not read what waiting moves. -/
theorem changePlan_told (goal : PropertyRatingGoal) (plan : RatingGoalPlan) (changedAt : Int) :
    (changePlan goal plan changedAt).told = (changePlan goal.told plan changedAt).told := by
  unfold changePlan
  have hstate : goal.told.state = goal.state := rfl
  have hplan : goal.told.toRatingGoalPlan = goal.toRatingGoalPlan := rfl
  rw [hstate, hplan]
  split
  · rfl
  · split
    · rfl
    · unfold PropertyRatingGoal.told
      by_cases hforgets : changeForgetsKnownStatus goal.toRatingGoalPlan plan = true <;>
        simp [hforgets, paceSinceAfter]

/-- What is stored of an evaluation does not depend on it, its own status apart. -/
theorem afterEvaluation_told (goal : PropertyRatingGoal) {evaluation evaluation' :
      RatingGoalEvaluation} (decision : RatingGoalNoticeDecision) (now : Int)
    (displayed : evaluation'.displayedTenths = evaluation.displayedTenths)
    (outcome : evaluation'.outcome = evaluation.outcome) :
    (afterEvaluation goal evaluation decision now).told =
      (afterEvaluation goal.told evaluation' decision now).told := by
  unfold afterEvaluation
  rw [outcome, displayed]
  cases evaluation.outcome <;> rfl

/-- Nor does an evaluation: what it shows, its outcome and its notices are the same. -/
theorem evaluateRatingGoal_told (goal : PropertyRatingGoal) (reading : RatingGoalReading)
    (reviewsInPaceWindow : Option Nat) :
    (evaluateRatingGoal goal.told reading reviewsInPaceWindow).displayedTenths =
        (evaluateRatingGoal goal reading reviewsInPaceWindow).displayedTenths ∧
      (evaluateRatingGoal goal.told reading reviewsInPaceWindow).outcome =
        (evaluateRatingGoal goal reading reviewsInPaceWindow).outcome ∧
      ∀ pace now, evaluationNotices goal.told
          (evaluateRatingGoal goal.told reading reviewsInPaceWindow) pace now =
        evaluationNotices goal (evaluateRatingGoal goal reading reviewsInPaceWindow) pace now := by
  unfold evaluateRatingGoal
  have hepoch : goal.told.sourceEpoch = goal.sourceEpoch := rfl
  rw [hepoch]
  split
  · exact ⟨rfl, rfl, fun _ _ ↦ rfl⟩
  · split
    · exact ⟨rfl, rfl, fun _ _ ↦ rfl⟩
    · exact ⟨rfl, rfl, fun _ _ ↦ rfl⟩

/-- A step depends on what waiting moves only in what waiting moves. -/
theorem ratingGoal_step_told (goal : PropertyRatingGoal) (event : GoalEvent) :
    (ratingGoal.step goal event).1.told = (ratingGoal.step goal.told event).1.told ∧
      (ratingGoal.step goal event).2.flatMap EvaluatedRatingGoal.sent =
        (ratingGoal.step goal.told event).2.flatMap EvaluatedRatingGoal.sent := by
  cases event with
  | changePlan plan changedAt => exact ⟨changePlan_told goal plan changedAt, rfl⟩
  | evaluate reading reviewsIn =>
      have hstate : goal.told.state = goal.state := rfl
      have hpace : goal.told.paceSince = goal.paceSince := rfl
      obtain ⟨hdisplayed, houtcome, hnotices⟩ := evaluateRatingGoal_told goal reading
        ((statusPaceWindow goal.paceSince reading.now).map reviewsIn)
      unfold ratingGoal
      simp only [hstate]
      split
      · exact ⟨rfl, rfl⟩
      · unfold evaluateActiveRatingGoal
        simp only [hpace, hnotices]
        refine ⟨afterEvaluation_told goal _ _ hdisplayed houtcome, ?_⟩
        rfl

/-- What a waiting evaluation finds. -/
theorem evaluateRatingGoal_of_waits {goal : PropertyRatingGoal} {reading : RatingGoalReading}
    {reviewsIn : PaceWindow → Nat}
    (waits : (GoalEvent.evaluate reading reviewsIn).waitsForGoogle goal.sourceEpoch = true)
    (reviewsInPaceWindow : Option Nat) :
    evaluateRatingGoal goal reading reviewsInPaceWindow = ⟨.waitingForGoogle, none, .continues⟩ := by
  unfold GoalEvent.waitsForGoogle at waits
  simp only [Bool.and_eq_true, decide_eq_true_eq] at waits
  obtain ⟨⟨hlive, hepoch⟩, hwaiting⟩ := waits
  unfold evaluateRatingGoal
  cases hmode : goal.mode <;>
    simp [hlive, hepoch, goalStatus, climbStatus, keepStatus, hmode, hwaiting]

/-- It tells nothing and keeps what a later evaluation compares with. -/
theorem evaluationNotices_waiting (goal : PropertyRatingGoal) (pace : Option PaceFacts)
    (now : Int) :
    evaluationNotices goal ⟨.waitingForGoogle, none, .continues⟩ pace now =
      ⟨[], goal.lastEvaluation.knownStatus, goal.lastEvaluation.belowPaceNoticedAt,
        goal.lastEvaluation.tooLowNoticedAt⟩ := by
  have hstatus : statusNotice ⟨goal, ⟨.waitingForGoogle, none, .continues⟩, pace, now⟩ = none := by
    unfold statusNotice
    split <;> rfl
  have htenth : tenthNotice ⟨goal, ⟨.waitingForGoogle, none, .continues⟩, pace, now⟩ = none := by
    unfold tenthNotice
    cases goal.lastEvaluation.displayedTenths <;> rfl
  simp [evaluationNotices, decideRatingGoalNotices, noticesFor, continuingNotices, hstatus, htenth,
    keepsKnownStatus]

/-- A waiting evaluation tells nothing and moves nothing else. -/
theorem waiting_quiet (goal : PropertyRatingGoal) (event : GoalEvent)
    (waits : event.waitsForGoogle goal.sourceEpoch = true) :
    (ratingGoal.step goal event).1.told = goal.told ∧
      (ratingGoal.step goal event).2.flatMap EvaluatedRatingGoal.sent = [] := by
  cases event with
  | changePlan => cases waits
  | evaluate reading reviewsIn =>
      unfold ratingGoal
      simp only
      split
      · exact ⟨rfl, rfl⟩
      · unfold evaluateActiveRatingGoal
        simp only [evaluateRatingGoal_of_waits waits, evaluationNotices_waiting]
        exact ⟨rfl, rfl⟩

/-- No step changes the binding a goal was set under. -/
theorem ratingGoal_step_sourceEpoch (goal : PropertyRatingGoal) (event : GoalEvent) :
    (ratingGoal.step goal event).1.sourceEpoch = goal.sourceEpoch := by
  cases event with
  | changePlan plan changedAt =>
      change (changePlan goal plan changedAt).sourceEpoch = goal.sourceEpoch
      unfold changePlan
      split
      · rfl
      · split <;> rfl
  | evaluate reading reviewsIn =>
      unfold ratingGoal
      simp only
      split
      · rfl
      · unfold evaluateActiveRatingGoal afterEvaluation
        simp only
        split <;> rfl

/-- Waiting evaluations of a goal are silent. -/
theorem silent_waiting (sourceEpoch : Nat) :
    ratingGoal.SilentEvents PropertyRatingGoal.told EvaluatedRatingGoal.sent
      (GoalEvent.waitsForGoogle sourceEpoch) (fun goal ↦ goal.sourceEpoch = sourceEpoch) where
  valid goal event h := (ratingGoal_step_sourceEpoch goal event).trans h
  congr goal goal' event _ _ same := by
    have hleft := ratingGoal_step_told goal event
    have hright := ratingGoal_step_told goal' event
    rw [same] at hleft
    exact ⟨hleft.1.trans hright.1.symm, hleft.2.trans hright.2.symm⟩
  quiet goal event h waits := waiting_quiet goal event (by rw [h]; exact waits)

/-! ## What one evaluation tells -/

/-- The status a notice tells, if it tells one. -/
def RatingGoalNotice.statusTold : RatingGoalNotice → Option RatingGoalStatus
  | .enteredBelowPace .. => some .belowPace
  | .enteredReviewsTooLow .. => some .reviewsTooLow
  | .keepDroppedBelow .. => some .droppedBelow
  | _ => none

/-- The two notices that are told once in two weeks. -/
inductive ThrottledNotice
  | belowPace
  | tooLow
  deriving DecidableEq, Repr

/-- Whether a notice is of the kind. -/
def ThrottledNotice.is : ThrottledNotice → RatingGoalNotice → Bool
  | .belowPace => RatingGoalNotice.isEnteredBelowPace
  | .tooLow => RatingGoalNotice.isEnteredReviewsTooLow

/-- When the managers were last told, as the goal stores it. -/
def ThrottledNotice.noticedAt : ThrottledNotice → RatingGoalEvaluationMark → Option Int
  | .belowPace => RatingGoalEvaluationMark.belowPaceNoticedAt
  | .tooLow => RatingGoalEvaluationMark.tooLowNoticedAt

/-- The time a decision stores. -/
def ThrottledNotice.decidedAt : ThrottledNotice → RatingGoalNoticeDecision → Option Int
  | .belowPace => RatingGoalNoticeDecision.belowPaceNoticedAt
  | .tooLow => RatingGoalNoticeDecision.tooLowNoticedAt

/-- A status notice tells the evaluation's status, entered from another known one, and respects its
clock. -/
theorem statusNotice_spec {input : RatingGoalNoticeInput} {notice : RatingGoalNotice}
    (h : statusNotice input = some notice) :
    (∃ known, input.goal.lastEvaluation.knownStatus = some known ∧
      known ≠ input.evaluation.status) ∧
      notice.statusTold = some input.evaluation.status ∧
      ∀ kind : ThrottledNotice, kind.is notice = true →
        mayTell (kind.noticedAt input.goal.lastEvaluation) input.now noticeDays = true := by
  unfold statusNotice at h
  by_cases hentered : entered input.goal.lastEvaluation.knownStatus input.evaluation.status = true
  · rw [if_pos hentered] at h
    refine ⟨?_, ?_⟩
    · unfold entered at hentered
      cases hknown : input.goal.lastEvaluation.knownStatus with
      | none => rw [hknown] at hentered; cases hentered
      | some known => exact ⟨known, rfl, by simpa [hknown] using hentered⟩
    · cases hstatus : input.evaluation.status <;> rw [hstatus] at h <;> simp only at h
      case belowPace =>
        unfold belowPaceNotice at h
        split at h
        · split at h
          · next hmay =>
            cases h
            refine ⟨rfl, fun kind hkind ↦ ?_⟩
            cases kind with
            | belowPace => exact hmay
            | tooLow => cases hkind
          · cases h
        · cases h
      case reviewsTooLow =>
        unfold tooLowNotice at h
        split at h
        · next hmay =>
          cases h
          refine ⟨rfl, fun kind hkind ↦ ?_⟩
          cases kind with
          | belowPace => cases hkind
          | tooLow => exact hmay
        · cases h
      case droppedBelow =>
        cases hshown : input.evaluation.displayedTenths with
        | none => rw [hshown] at h; cases h
        | some shown =>
            rw [hshown] at h
            cases h
            refine ⟨rfl, fun kind hkind ↦ ?_⟩
            cases kind <;> cases hkind
      all_goals cases h
  · rw [if_neg hentered] at h
    cases h

/-- A tenth notice tells the tenth shown, from the one stored. -/
theorem tenthNotice_spec {input : RatingGoalNoticeInput} {notice : RatingGoalNotice}
    (h : tenthNotice input = some notice) :
    ∃ shown previous, input.goal.lastEvaluation.displayedTenths = some previous ∧
      input.evaluation.displayedTenths = some shown ∧ previous ≠ shown ∧
      notice = .googleRatingChanged input.goal.mode input.goal.targetTenths shown previous := by
  unfold tenthNotice at h
  split at h
  · next previous shown hprevious hshown =>
    by_cases hsame : previous = shown
    · rw [if_pos hsame] at h
      cases h
    · rw [if_neg hsame] at h
      cases h
      exact ⟨shown, previous, hprevious, hshown, hsame, rfl⟩
  · cases h

/-- Every notice of an evaluation is its tenth notice, its status notice, or tells that the goal is
reached. -/
theorem mem_noticesFor {input : RatingGoalNoticeInput} {notice : RatingGoalNotice}
    (h : notice ∈ noticesFor input) :
    tenthNotice input = some notice ∨ statusNotice input = some notice ∨
      ∃ shown, notice = .reached input.goal.targetTenths shown := by
  unfold noticesFor at h
  split at h
  · cases h
  · exact Or.inr (Or.inr ⟨_, List.mem_singleton.1 h⟩)
  · unfold continuingNotices at h
    simp only [List.mem_append, Option.mem_toList] at h
    rcases h with htenth | hstatus
    · split at htenth
      · cases htenth
      · exact Or.inl htenth
    · exact Or.inr (Or.inl hstatus)

/-- An evaluation tells a kind of notice at most once. -/
theorem noticesFor_filter_length (input : RatingGoalNoticeInput) (kind : ThrottledNotice) :
    ((noticesFor input).filter kind.is).length ≤ 1 := by
  unfold noticesFor
  split
  · exact Nat.zero_le 1
  · exact List.length_filter_le _ _
  · unfold continuingNotices
    simp only [List.filter_append, List.length_append]
    have htenth : (tenthNotice input).toList.filter kind.is = [] := by
      rw [List.filter_eq_nil_iff]
      intro notice hmem
      obtain ⟨_, _, -, -, -, rfl⟩ := tenthNotice_spec (Option.mem_toList.1 hmem)
      cases kind <;> exact Bool.false_ne_true
    have hnone : ((if (statusNotice input).any RatingGoalNotice.isKeepDroppedBelow then none
        else tenthNotice input).toList.filter kind.is) = [] := by
      split
      · rfl
      · exact htenth
    have hstatus : (statusNotice input).toList.length ≤ 1 := by
      cases statusNotice input <;> simp
    rw [hnone, List.length_nil, Nat.zero_add]
    exact Nat.le_trans (List.length_filter_le _ _) hstatus

/-- The outcome ends the goal unreached. -/
def RatingGoalOutcome.ends : RatingGoalOutcome → Bool
  | .ended _ => true
  | _ => false

/-- What a decision stores to compare with next. -/
theorem decideRatingGoalNotices_spec (input : RatingGoalNoticeInput) :
    ((decideRatingGoalNotices input).notices = [] ∨
      (decideRatingGoalNotices input).notices = noticesFor input) ∧
    ((decideRatingGoalNotices input).knownStatus =
      if input.evaluation.outcome.ends || keepsKnownStatus input then
        input.goal.lastEvaluation.knownStatus
      else some input.evaluation.status) ∧
    ∀ kind : ThrottledNotice, kind.decidedAt (decideRatingGoalNotices input) =
      if (decideRatingGoalNotices input).notices.any kind.is then some input.now
      else kind.noticedAt input.goal.lastEvaluation := by
  unfold decideRatingGoalNotices
  cases houtcome : input.evaluation.outcome with
  | ended reason =>
      refine ⟨Or.inl rfl, rfl, fun kind ↦ ?_⟩
      cases kind <;> rfl
  | continues =>
      refine ⟨Or.inr rfl, rfl, fun kind ↦ ?_⟩
      cases kind <;> rfl
  | reached =>
      refine ⟨Or.inr rfl, rfl, fun kind ↦ ?_⟩
      cases kind <;> rfl

/-! ## Storing an evaluation -/

/-- What a stored evaluation leaves to compare with. -/
theorem afterEvaluation_mark (goal : PropertyRatingGoal) (evaluation : RatingGoalEvaluation)
    (decision : RatingGoalNoticeDecision) (now : Int) :
    (afterEvaluation goal evaluation decision now).lastEvaluation =
      { status := some evaluation.status
        displayedTenths := evaluation.displayedTenths.or goal.lastEvaluation.displayedTenths
        evaluatedAt := some now
        knownStatus := decision.knownStatus
        belowPaceNoticedAt := decision.belowPaceNoticedAt
        tooLowNoticedAt := decision.tooLowNoticedAt } := by
  unfold afterEvaluation
  split <;> rfl

/-- A status that is told is neither a wait nor a start. -/
theorem statusTold_ne {notice : RatingGoalNotice} {status : RatingGoalStatus}
    (h : notice.statusTold = some status) : status ≠ .waitingForGoogle ∧ status ≠ .gettingStarted := by
  cases notice <;> cases h <;> decide

/-- What a write that would change nothing leaves alone. -/
theorem not_evaluationChanges {goal : PropertyRatingGoal} {evaluation : RatingGoalEvaluation}
    {decision : RatingGoalNoticeDecision} {now : Int}
    (repeats : evaluationChanges goal (evaluationWrite goal evaluation decision now) = false) :
    evaluation.outcome = .continues ∧ goal.lastEvaluation.knownStatus = decision.knownStatus ∧
      (evaluation.displayedTenths = none ∨
        goal.lastEvaluation.displayedTenths = evaluation.displayedTenths) := by
  unfold evaluationChanges evaluationWrite at repeats
  simp only [Bool.or_eq_false_iff, Bool.and_eq_false_iff, decide_eq_false_iff_not,
    Decidable.not_not] at repeats
  obtain ⟨hcontinues, ⟨-, hsame⟩, hdisplayed⟩ := repeats
  refine ⟨hcontinues, hsame, ?_⟩
  rcases hdisplayed with hnone | heq
  · exact Or.inl (Option.isSome_eq_false_iff.1 hnone |> Option.isNone_iff_eq_none.1)
  · exact Or.inr heq

/-- An evaluation that changes nothing tells nothing. -/
theorem notices_of_not_evaluationChanges {goal : PropertyRatingGoal}
    {evaluation : RatingGoalEvaluation} {pace : Option PaceFacts} {now : Int}
    (repeats : evaluationChanges goal (evaluationWrite goal evaluation
      (evaluationNotices goal evaluation pace now) now) = false) :
    (evaluationNotices goal evaluation pace now).notices = [] := by
  have hknown := (decideRatingGoalNotices_spec ⟨goal, evaluation, pace, now⟩).2.1
  obtain ⟨hcontinues, hsame, hdisplayed⟩ := not_evaluationChanges repeats
  have htenth : tenthNotice ⟨goal, evaluation, pace, now⟩ = none := by
    cases hnotice : tenthNotice ⟨goal, evaluation, pace, now⟩ with
    | none => rfl
    | some notice =>
        obtain ⟨shown, previous, hprevious, hshown, hne, -⟩ := tenthNotice_spec hnotice
        simp only at hprevious hshown
        rcases hdisplayed with hnone | heq
        · rw [hshown] at hnone
          cases hnone
        · rw [hprevious, hshown] at heq
          exact absurd (Option.some.inj heq) hne
  have hstatus : statusNotice ⟨goal, evaluation, pace, now⟩ = none := by
    cases hnotice : statusNotice ⟨goal, evaluation, pace, now⟩ with
    | none => rfl
    | some notice =>
        obtain ⟨⟨known, hstored, hne⟩, htells, -⟩ := statusNotice_spec hnotice
        obtain ⟨hwaits, hstarts⟩ := statusTold_ne htells
        have hkeeps : keepsKnownStatus ⟨goal, evaluation, pace, now⟩ = false := by
          unfold keepsKnownStatus
          rw [decide_eq_false hwaits, decide_eq_false hstarts]
          rfl
        have hends : evaluation.outcome.ends = false := by
          rw [hcontinues]
          rfl
        have hnew : (decideRatingGoalNotices ⟨goal, evaluation, pace, now⟩).knownStatus =
            some evaluation.status := by
          rw [hknown, hkeeps, hends]
          rfl
        rw [hstored] at hsame
        rw [evaluationNotices, hnew] at hsame
        exact absurd (Option.some.inj hsame) hne
  have hnotices : noticesFor ⟨goal, evaluation, pace, now⟩ = [] := by
    unfold noticesFor
    simp only [hcontinues]
    unfold continuingNotices
    rw [htenth, hstatus]
    rfl
  rcases (decideRatingGoalNotices_spec ⟨goal, evaluation, pace, now⟩).1 with hnone | hall
  · exact hnone
  · exact hall.trans hnotices

/-- An evaluation stored onto the row it was read from leaves the evaluated goal; one that is refused
there is a repeat, which tells nothing and would have changed nothing a later one compares with. -/
theorem recordEvaluation_of_read {goal : PropertyRatingGoal} (evaluation : RatingGoalEvaluation)
    (pace : Option PaceFacts) {now : Int} (active : goal.state = .active)
    (inOrder : ∀ last, goal.lastEvaluation.evaluatedAt = some last → last ≤ now) :
    let decision := evaluationNotices goal evaluation pace now
    recordEvaluation goal (evaluationWrite goal evaluation decision now) =
        some (afterEvaluation goal evaluation decision now) ∨
      (recordEvaluation goal (evaluationWrite goal evaluation decision now) = none ∧
        decision.notices = [] ∧
        (afterEvaluation goal evaluation decision now).noticeMark = goal.noticeMark) := by
  intro decision
  have hlast : (goal.lastEvaluation.evaluatedAt.all fun last ↦ decide (last ≤ now)) = true := by
    cases hat : goal.lastEvaluation.evaluatedAt with
    | none => rfl
    | some last => exact decide_eq_true (inOrder last hat)
  cases hchanges : evaluationChanges goal (evaluationWrite goal evaluation decision now) with
  | true =>
      left
      unfold recordEvaluation
      rw [if_pos ⟨active, rfl, hlast, rfl, hchanges⟩]
      unfold evaluationSet afterEvaluation evaluationWrite
      cases evaluation.outcome <;> rfl
  | false =>
      right
      have hnotices := notices_of_not_evaluationChanges hchanges
      refine ⟨?_, hnotices, ?_⟩
      · unfold recordEvaluation
        rw [if_neg]
        rintro ⟨-, -, -, -, hwould⟩
        rw [hchanges] at hwould
        cases hwould
      · obtain ⟨-, hsame, hdisplayed⟩ := not_evaluationChanges hchanges
        have hclock : ∀ kind : ThrottledNotice, kind.decidedAt decision =
            kind.noticedAt goal.lastEvaluation := by
          intro kind
          have hdecided := (decideRatingGoalNotices_spec ⟨goal, evaluation, pace, now⟩).2.2 kind
          have hnone : (decideRatingGoalNotices ⟨goal, evaluation, pace, now⟩).notices = [] :=
            hnotices
          rw [hnone] at hdecided
          exact hdecided
        have hshown : evaluation.displayedTenths.or goal.lastEvaluation.displayedTenths =
            goal.lastEvaluation.displayedTenths := by
          rcases hdisplayed with hnone | heq
          · rw [hnone, Option.none_or]
          · rw [heq, Option.or_self]
        unfold PropertyRatingGoal.noticeMark
        rw [afterEvaluation_mark]
        simp only
        rw [hshown, ← hsame]
        have hbelow : decision.belowPaceNoticedAt = goal.lastEvaluation.belowPaceNoticedAt :=
          hclock .belowPace
        have hlow : decision.tooLowNoticedAt = goal.lastEvaluation.tooLowNoticedAt :=
          hclock .tooLow
        rw [hbelow, hlow]

/-! ## The run so far -/

/-- An evaluation that leaves the known status as it was: it ended the goal, waited for Google, or
was the fresh start after a change of pace. -/
def EvaluatedRatingGoal.keepsKnownStatus (evaluated : EvaluatedRatingGoal) : Bool :=
  evaluated.evaluation.outcome.ends ||
    (decide (evaluated.evaluation.status = .waitingForGoogle) ||
      (decide (evaluated.evaluation.status = .gettingStarted) &&
        restartsAfterPaceChange evaluated.previous evaluated.now))

/-- The tenth of the evaluation that last read Google, after a start that knew one or not. -/
def lastRead (start : Option Nat) (evaluations : List EvaluatedRatingGoal) : Option Nat :=
  evaluations.foldl (fun last evaluated ↦ evaluated.evaluation.displayedTenths.or last) start

/-- The status last known, after a start that knew one or not. -/
def lastKnown (start : Option RatingGoalStatus) (evaluations : List EvaluatedRatingGoal) :
    Option RatingGoalStatus :=
  evaluations.foldl (fun last evaluated ↦
    if evaluated.keepsKnownStatus then last else some evaluated.evaluation.status) start

/-- An evaluation told a notice of the kind. -/
def EvaluatedRatingGoal.tells (kind : ThrottledNotice) (evaluated : EvaluatedRatingGoal) : Bool :=
  evaluated.notices.any kind.is

/-- What an evaluation tells fits the evaluations before it. -/
structure ToldAfter (start : PropertyRatingGoal) (before : List EvaluatedRatingGoal)
    (evaluated : EvaluatedRatingGoal) : Prop where
  tenth : ∀ mode target shown previous,
    RatingGoalNotice.googleRatingChanged mode target shown previous ∈ evaluated.notices →
      lastRead start.lastEvaluation.displayedTenths before = some previous ∧
        evaluated.evaluation.displayedTenths = some shown ∧ previous ≠ shown
  status : ∀ notice ∈ evaluated.notices, ∀ status, notice.statusTold = some status →
    evaluated.evaluation.status = status ∧
      ∃ known, lastKnown start.lastEvaluation.knownStatus before = some known ∧ known ≠ status

/-- What holds of the evaluations made so far and the goal they left. -/
structure GoalInvariant (start : PropertyRatingGoal) (evaluations : List EvaluatedRatingGoal)
    (goal : PropertyRatingGoal) : Prop where
  tenth : goal.lastEvaluation.displayedTenths =
    lastRead start.lastEvaluation.displayedTenths evaluations
  known : goal.lastEvaluation.knownStatus = none ∨
    goal.lastEvaluation.knownStatus = lastKnown start.lastEvaluation.knownStatus evaluations
  clock : ∀ kind : ThrottledNotice, ∀ evaluated ∈ evaluations, evaluated.tells kind = true →
    ∃ noticedAt, kind.noticedAt goal.lastEvaluation = some noticedAt ∧ evaluated.now ≤ noticedAt
  spaced : ∀ kind : ThrottledNotice,
    (evaluations.filter (EvaluatedRatingGoal.tells kind)).Pairwise fun earlier later ↦
      earlier.now + noticeDays * dayMs ≤ later.now
  once : ∀ kind : ThrottledNotice, ∀ evaluated ∈ evaluations,
    (evaluated.notices.filter kind.is).length ≤ 1
  told : ∀ before evaluated after, evaluations = before ++ evaluated :: after →
    ToldAfter start before evaluated

/-- A change of plan keeps the tenth and the clocks, and keeps or forgets the known status. -/
theorem changePlan_mark (goal : PropertyRatingGoal) (plan : RatingGoalPlan) (changedAt : Int) :
    (changePlan goal plan changedAt).lastEvaluation.displayedTenths =
        goal.lastEvaluation.displayedTenths ∧
      ((changePlan goal plan changedAt).lastEvaluation.knownStatus = none ∨
        (changePlan goal plan changedAt).lastEvaluation.knownStatus =
          goal.lastEvaluation.knownStatus) ∧
      ∀ kind : ThrottledNotice, kind.noticedAt (changePlan goal plan changedAt).lastEvaluation =
        kind.noticedAt goal.lastEvaluation := by
  unfold changePlan
  split
  · exact ⟨rfl, Or.inr rfl, fun _ ↦ rfl⟩
  · split
    · exact ⟨rfl, Or.inr rfl, fun _ ↦ rfl⟩
    · by_cases hforgets : changeForgetsKnownStatus goal.toRatingGoalPlan plan = true
      · rw [if_pos hforgets]
        refine ⟨rfl, Or.inl rfl, fun kind ↦ ?_⟩
        cases kind <;> rfl
      · rw [if_neg hforgets]
        exact ⟨rfl, Or.inr rfl, fun _ ↦ rfl⟩

variable {start goal : PropertyRatingGoal} {evaluations : List EvaluatedRatingGoal}

/-- What a decision tells fits the evaluations before it. -/
theorem GoalInvariant.toldAfter (h : GoalInvariant start evaluations goal)
    (input : RatingGoalNoticeInput) (ofGoal : input.goal = goal) :
    ToldAfter start evaluations
      ⟨goal, input.evaluation, (decideRatingGoalNotices input).notices, input.now⟩ := by
  have hnotices : ∀ notice ∈ (decideRatingGoalNotices input).notices,
      notice ∈ noticesFor input := by
    intro notice hmem
    rcases (decideRatingGoalNotices_spec input).1 with hnone | hall
    · rw [hnone] at hmem
      cases hmem
    · rwa [hall] at hmem
  constructor
  · intro mode target shown previous hmem
    rcases mem_noticesFor (hnotices _ hmem) with htenth | hstatus | ⟨_, hreached⟩
    · obtain ⟨shown', previous', hstored, hshown, hne, heq⟩ := tenthNotice_spec htenth
      cases heq
      rw [ofGoal, h.tenth] at hstored
      exact ⟨hstored, hshown, hne⟩
    · have htold := (statusNotice_spec hstatus).2.1
      cases htold
    · cases hreached
  · intro notice hmem status htold
    rcases mem_noticesFor (hnotices _ hmem) with htenth | hstatus | ⟨_, hreached⟩
    · obtain ⟨_, _, -, -, -, rfl⟩ := tenthNotice_spec htenth
      cases htold
    · obtain ⟨⟨known, hknown, hne⟩, htells, -⟩ := statusNotice_spec hstatus
      have hsame : input.evaluation.status = status := by
        rw [htold] at htells
        exact (Option.some.inj htells).symm
      rw [ofGoal] at hknown
      rcases h.known with hnone | hlast
      · rw [hnone] at hknown
        cases hknown
      · exact ⟨hsame, known, hlast ▸ hknown, hsame ▸ hne⟩
    · rw [hreached] at htold
      cases htold

/-- A kind of notice is told only two weeks after every earlier one. -/
theorem GoalInvariant.waitedTwoWeeks (h : GoalInvariant start evaluations goal)
    (input : RatingGoalNoticeInput) (ofGoal : input.goal = goal) {kind : ThrottledNotice}
    (tells : (decideRatingGoalNotices input).notices.any kind.is = true) :
    ∀ evaluated ∈ evaluations, evaluated.tells kind = true →
      evaluated.now + noticeDays * dayMs ≤ input.now := by
  intro evaluated hmem htold
  obtain ⟨noticedAt, hclock, hle⟩ := h.clock kind evaluated hmem htold
  obtain ⟨notice, hnotice, hkind⟩ := List.any_eq_true.1 tells
  have hmay : mayTell (kind.noticedAt goal.lastEvaluation) input.now noticeDays = true := by
    rcases (decideRatingGoalNotices_spec input).1 with hnone | hall
    · rw [hnone] at hnotice
      cases hnotice
    · rw [hall] at hnotice
      rcases mem_noticesFor hnotice with htenth | hstatus | ⟨_, rfl⟩
      · obtain ⟨_, _, -, -, -, rfl⟩ := tenthNotice_spec htenth
        cases kind <;> cases hkind
      · exact ofGoal ▸ (statusNotice_spec hstatus).2.2 kind hkind
      · cases kind <;> cases hkind
  rw [hclock] at hmay
  unfold mayTell at hmay
  simp only [Option.all_some, decide_eq_true_eq] at hmay
  omega

/-- Storing an evaluation keeps the invariant. -/
theorem GoalInvariant.evaluated (h : GoalInvariant start evaluations goal)
    (input : RatingGoalNoticeInput) (ofGoal : input.goal = goal) :
    GoalInvariant start
      (evaluations ++ [⟨goal, input.evaluation, (decideRatingGoalNotices input).notices,
        input.now⟩])
      (afterEvaluation goal input.evaluation (decideRatingGoalNotices input) input.now) := by
  obtain ⟨-, hknown, hclock⟩ := decideRatingGoalNotices_spec input
  have hmark := afterEvaluation_mark goal input.evaluation (decideRatingGoalNotices input) input.now
  have hnoticed : ∀ kind : ThrottledNotice,
      kind.noticedAt (afterEvaluation goal input.evaluation (decideRatingGoalNotices input)
        input.now).lastEvaluation =
      if (decideRatingGoalNotices input).notices.any kind.is then some input.now
      else kind.noticedAt goal.lastEvaluation := by
    intro kind
    rw [hmark, ← ofGoal, ← hclock kind]
    cases kind <;> rfl
  refine ⟨?_, ?_, ?_, ?_, ?_, forall_split_append_singleton h.told (h.toldAfter input ofGoal)⟩
  · rw [hmark, lastRead, List.foldl_append]
    change input.evaluation.displayedTenths.or goal.lastEvaluation.displayedTenths = _
    rw [h.tenth]
    rfl
  · rw [hmark]
    change (decideRatingGoalNotices input).knownStatus = none ∨
      (decideRatingGoalNotices input).knownStatus = _
    rw [hknown, lastKnown, List.foldl_append, ofGoal]
    change (if input.evaluation.outcome.ends || keepsKnownStatus input then _ else _) = none ∨
      (if input.evaluation.outcome.ends || keepsKnownStatus input then _ else _) =
        if EvaluatedRatingGoal.keepsKnownStatus ⟨goal, input.evaluation,
          (decideRatingGoalNotices input).notices, input.now⟩ then _ else _
    have hkeeps : EvaluatedRatingGoal.keepsKnownStatus ⟨goal, input.evaluation,
        (decideRatingGoalNotices input).notices, input.now⟩ =
        (input.evaluation.outcome.ends || keepsKnownStatus input) := by
      rw [← ofGoal]
      rfl
    rw [hkeeps]
    split
    · exact h.known
    · exact Or.inr rfl
  · intro kind evaluated hmem htold
    rw [hnoticed]
    rcases List.mem_append.1 hmem with hearlier | hlast
    · obtain ⟨noticedAt, hstored, hle⟩ := h.clock kind evaluated hearlier htold
      by_cases htells : (decideRatingGoalNotices input).notices.any kind.is = true
      · rw [if_pos htells]
        have hwaited := h.waitedTwoWeeks input ofGoal htells evaluated hearlier htold
        refine ⟨input.now, rfl, ?_⟩
        have : 0 ≤ noticeDays * dayMs := by decide
        omega
      · rw [if_neg htells]
        exact ⟨noticedAt, hstored, hle⟩
    · rw [List.mem_singleton.1 hlast] at htold ⊢
      have htells : (decideRatingGoalNotices input).notices.any kind.is = true := htold
      rw [if_pos htells]
      exact ⟨input.now, rfl, Int.le_refl _⟩
  · intro kind
    rw [List.filter_append, List.pairwise_append]
    refine ⟨h.spaced kind, (List.pairwise_singleton _ _).filter _, ?_⟩
    intro earlier hearlier later hlater
    obtain ⟨hmem, htold⟩ := List.mem_filter.1 hearlier
    obtain ⟨hlast, htells⟩ := List.mem_filter.1 hlater
    rw [List.mem_singleton.1 hlast] at htells ⊢
    exact h.waitedTwoWeeks input ofGoal htells earlier hmem htold
  · intro kind evaluated hmem
    rcases List.mem_append.1 hmem with hearlier | hlast
    · exact h.once kind evaluated hearlier
    · rw [List.mem_singleton.1 hlast]
      rcases (decideRatingGoalNotices_spec input).1 with hnone | hall
      · simp only [hnone, List.filter_nil, List.length_nil, Nat.zero_le]
      · simp only [hall]
        exact noticesFor_filter_length input kind

/-- Every step keeps the invariant. -/
theorem goalInvariant_step (h : GoalInvariant start evaluations goal) (event : GoalEvent) :
    GoalInvariant start (evaluations ++ (ratingGoal.step goal event).2)
      (ratingGoal.step goal event).1 := by
  cases event with
  | changePlan plan changedAt =>
      obtain ⟨htenth, hknown, hclock⟩ := changePlan_mark goal plan changedAt
      change GoalInvariant start (evaluations ++ []) (changePlan goal plan changedAt)
      rw [List.append_nil]
      refine ⟨htenth.trans h.tenth, ?_, ?_, h.spaced, h.once, h.told⟩
      · rcases hknown with hnone | hsame
        · exact Or.inl hnone
        · rw [hsame]
          exact h.known
      · intro kind
        rw [hclock]
        exact h.clock kind
  | evaluate reading reviewsIn =>
      unfold ratingGoal
      simp only
      split
      · simpa using h
      · let window := statusPaceWindow goal.paceSince reading.now
        exact h.evaluated ⟨goal, evaluateRatingGoal goal reading (window.map reviewsIn),
          window.map fun window ↦ ⟨reviewsIn window, window⟩, reading.now⟩ rfl

/-- The notices of a kind that the evaluations sent are two weeks apart. -/
theorem GoalInvariant.sent_spaced (h : GoalInvariant start evaluations goal)
    (kind : ThrottledNotice) :
    ((evaluations.flatMap EvaluatedRatingGoal.sent).filter fun sent ↦ kind.is sent.2).Pairwise
      fun earlier later ↦ earlier.1 + noticeDays * dayMs ≤ later.1 := by
  have hsent : ∀ evaluated : EvaluatedRatingGoal,
      (evaluated.sent.filter fun sent ↦ kind.is sent.2) =
        (evaluated.notices.filter kind.is).map fun notice ↦ (evaluated.now, notice) := by
    intro evaluated
    unfold EvaluatedRatingGoal.sent
    rw [List.filter_map]
    rfl
  have htells : ∀ evaluated : EvaluatedRatingGoal, ∀ sent ∈ evaluated.sent, kind.is sent.2 = true →
      evaluated.tells kind = true ∧ sent.1 = evaluated.now := by
    intro evaluated sent hmem hkind
    obtain ⟨notice, hnotice, rfl⟩ := List.mem_map.1 hmem
    exact ⟨List.any_eq_true.2 ⟨notice, hnotice, hkind⟩, rfl⟩
  rw [List.filter_flatMap, List.pairwise_flatMap]
  refine ⟨fun evaluated hmem ↦ ?_, ?_⟩
  · rw [hsent]
    have honce := h.once kind evaluated hmem
    cases hnotices : evaluated.notices.filter kind.is with
    | nil => exact List.Pairwise.nil
    | cons notice rest =>
        rw [hnotices, List.length_cons] at honce
        have hrest : rest = [] := List.length_eq_zero_iff.1 (by omega)
        rw [hrest]
        exact List.pairwise_singleton _ _
  · have hspaced := List.pairwise_filter.1 (h.spaced kind)
    refine hspaced.imp fun {a b} hab earlier hearlier later hlater ↦ ?_
    obtain ⟨hmemA, hkindA⟩ := List.mem_filter.1 hearlier
    obtain ⟨hmemB, hkindB⟩ := List.mem_filter.1 hlater
    obtain ⟨htellsA, htimeA⟩ := htells a earlier hmemA hkindA
    obtain ⟨htellsB, htimeB⟩ := htells b later hmemB hkindB
    rw [htimeA, htimeB]
    exact hab htellsA htellsB

/-- The invariant holds at the start of a run. -/
theorem goalInvariant_start (start : PropertyRatingGoal) : GoalInvariant start [] start where
  tenth := rfl
  known := Or.inr rfl
  clock := fun _ _ hmem ↦ by cases hmem
  spaced := fun _ ↦ List.Pairwise.nil
  once := fun _ _ hmem ↦ by cases hmem
  told := fun before _ _ hsplit ↦ by cases before <;> cases hsplit

/-- Over any run of one goal: (1) evaluations that wait for Google may be put in or left out
anywhere, and neither the notices sent nor the final goal changes, the last status and the dates of
the last evaluation apart; (2) two below-pace notices, and two too-low ones, are at least two weeks
apart; (3) a status notice tells the evaluation's status when another one was last known; (4) a
shown-tenth notice starts from the tenth of the evaluation that last read Google. -/
theorem ratingGoal_notices (start : PropertyRatingGoal) (events : List GoalEvent) :
    (∀ events', (events'.filter fun event ↦ !event.waitsForGoogle start.sourceEpoch) =
        (events.filter fun event ↦ !event.waitsForGoogle start.sourceEpoch) →
      sentNotices start events' = sentNotices start events ∧
        (ratingGoal.final start events').noticeMark = (ratingGoal.final start events).noticeMark ∧
        (ratingGoal.final start events').told = (ratingGoal.final start events).told) ∧
    (∀ kind : ThrottledNotice,
      ((sentNotices start events).filter fun sent ↦ kind.is sent.2).Pairwise
        fun earlier later ↦ earlier.1 + 14 * 24 * 60 * 60 * 1000 ≤ later.1) ∧
    ∀ before evaluated after, ratingGoal.output start events = before ++ evaluated :: after →
      (∀ notice ∈ evaluated.notices, ∀ status, notice.statusTold = some status →
        evaluated.evaluation.status = status ∧
          ∃ known, lastKnown start.lastEvaluation.knownStatus before = some known ∧
            known ≠ status) ∧
      ∀ mode target shown previous,
        RatingGoalNotice.googleRatingChanged mode target shown previous ∈ evaluated.notices →
          lastRead start.lastEvaluation.displayedTenths before = some previous ∧
            evaluated.evaluation.displayedTenths = some shown ∧ previous ≠ shown := by
  have hinvariant : GoalInvariant start ([] ++ ratingGoal.output start events)
      (ratingGoal.final start events) :=
    ratingGoal.invariant (I := GoalInvariant start)
      (fun _ _ event h ↦ goalInvariant_step h event) (goalInvariant_start start) events
  rw [List.nil_append] at hinvariant
  refine ⟨fun events' same ↦ ?_, fun kind ↦ ?_, fun before evaluated after hsplit ↦ ?_⟩
  · obtain ⟨hview, hsent⟩ := (silent_waiting start.sourceEpoch).insert_or_delete rfl same
    refine ⟨hsent, ?_, hview⟩
    have hmark := congrArg PropertyRatingGoal.noticeMark hview
    exact hmark
  · exact hinvariant.sent_spaced kind
  · have htold := hinvariant.told before evaluated after hsplit
    exact ⟨htold.status, htold.tenth⟩

section Sample

/-- A climb goal on its pace. -/
def sampleGoal : PropertyRatingGoal :=
  { mode := .climb
    targetTenths := 45
    qualityTenths := some 48
    paceTenthsPerWeek := some 100
    sourceEpoch := 1
    state := .active
    endedReason := none
    lastEvaluation := ⟨some 43, some .onPace, some 0, some .onPace, none, none⟩
    reachedAt := none
    endedAt := none
    createdAt := 0
    updatedAt := 0
    paceSince := 0
    version := 1 }

/-- An evaluation some days after the set, with a count of reviews. -/
def sampleEvaluation (day : Int) (waiting : Bool) (reviews : Nat) : GoalEvent :=
  .evaluate ⟨day * dayMs, .active, 1, waiting, some 43, some ⟨0, 0⟩⟩ fun _ ↦ reviews

/-- A wait between two evaluations leaves out no notice and repeats none. -/
theorem ratingGoal_notices_wait :
    sentNotices sampleGoal [sampleEvaluation 30 false 0, sampleEvaluation 31 true 0,
        sampleEvaluation 32 false 0] =
      sentNotices sampleGoal [sampleEvaluation 30 false 0, sampleEvaluation 32 false 0] ∧
    sentNotices sampleGoal [sampleEvaluation 30 false 0, sampleEvaluation 32 false 0] =
      [(30 * dayMs, .enteredBelowPace 45 100 10 0 .last4Weeks)] :=
  ⟨((ratingGoal_notices sampleGoal [sampleEvaluation 30 false 0, sampleEvaluation 32 false 0]).1
    _ rfl).1, by decide⟩

/-- An evaluation after thirty days without a review is stored as it was decided. -/
theorem recordEvaluation_of_read_below :
    let evaluation := evaluateRatingGoal sampleGoal
      ⟨30 * dayMs, .active, 1, false, some 43, some ⟨0, 0⟩⟩ (some 0)
    let decision := evaluationNotices sampleGoal evaluation none (30 * dayMs)
    recordEvaluation sampleGoal (evaluationWrite sampleGoal evaluation decision (30 * dayMs)) =
      some (afterEvaluation sampleGoal evaluation decision (30 * dayMs)) := by
  intro evaluation decision
  have hstored := @recordEvaluation_of_read sampleGoal evaluation none (30 * dayMs) rfl
    (fun last hlast ↦ by cases hlast; decide)
  exact hstored.resolve_right fun hrefused ↦ absurd hrefused.1 (by decide)

end Sample

end ReputationKey.Reporting
