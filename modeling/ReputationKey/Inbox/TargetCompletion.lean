import ReputationKey.Base.Refusal
import ReputationKey.Base.Transducer
import ReputationKey.Inbox.ReminderRelease
import Mathlib.Tactic.SplitIfs

/-!
# Overdue and late

A measured target is shown against its due time while it is active, and its completion is
classified against the same due time when it stops. The two decisions are written apart and meet at
the due instant: it is overdue already, and still on time. Times are epoch milliseconds. Follows
`src/src/contexts/inbox/domain/response-target.ts:230–306`,
`src/src/contexts/inbox/infrastructure/google-review-target-completion.ts` and
`src/src/contexts/inbox/infrastructure/response-target.store.ts:335–489`.
-/

namespace ReputationKey.Inbox

open Base

/-! ## The two decisions -/

/-- Whether a cycle's timing is known. -/
inductive ResponseTargetEligibility
  | measured
  | legacyUnknown
  | historicalOnboarding
  deriving DecidableEq, Repr

/-- How a target ended. -/
inductive ResponseTargetResult
  | onTime
  | late
  | cancelled
  deriving DecidableEq, Repr

/-- What of a target is evaluated. -/
structure EvaluatedTarget where
  eligibility : ResponseTargetEligibility
  startAt : Option Int
  dueAt : Option Int
  completionAt : Option Int
  result : Option ResponseTargetResult
  excludedFromReporting : Bool
  deriving DecidableEq, Repr

/-- How far a target has come. -/
inductive EvaluationState
  | active
  | completed
  | cancelled
  | excluded
  deriving DecidableEq, Repr

/-- What is shown of a target. -/
structure ResponseTargetEvaluation where
  state : EvaluationState
  overdue : Bool
  elapsedMinutes : Option Int
  deriving DecidableEq, Repr

/-- What is shown of a target at an instant. -/
def evaluateResponseTarget (target : EvaluatedTarget) (now : Int) : ResponseTargetEvaluation :=
  match target.startAt, target.dueAt with
  | some startAt, some dueAt =>
      if target.excludedFromReporting ∨ target.eligibility ≠ .measured then ⟨.excluded, false, none⟩
      else if target.result = some .cancelled then ⟨.cancelled, false, none⟩
      else
        let effectiveEnd := target.completionAt.getD now
        let elapsedMinutes := max 0 ((effectiveEnd - startAt) / 60000)
        if target.completionAt.isSome then
          ⟨.completed, target.result == some .late, some elapsedMinutes⟩
        else ⟨.active, decide (dueAt ≤ now), some elapsedMinutes⟩
  | _, _ => ⟨.excluded, false, none⟩

/-- How a completion counts. -/
def classifyResponseTargetCompletion (dueAt completionAt : Int) : ResponseTargetResult :=
  if completionAt ≤ dueAt then .onTime else .late

/-- When a reply that Google shows counts as given. Its time is null, or a date that may be none. -/
def resolveGoogleReplyCompletion (repliedAt : Option (Option Int)) (startAt : Option Int)
    (observedAt : Int) : Int :=
  let stopped :=
    match repliedAt.join with
    | some repliedMs => min repliedMs observedAt
    | none => observedAt
  match startAt with
  | none => stopped
  | some startAt => max startAt stopped

/-! ## Stored targets -/

/-- Why a target stopped. -/
inductive TargetStopReason
  | confirmedOnGoogle
  | privateFeedbackHandled
  | guestWithdrawn
  | supersededBySourceRevision
  | sourceIneligible
  deriving DecidableEq, Repr

/-- The stored target of a handling cycle. -/
structure TargetRow where
  targetKind : ResponseTargetKind
  performanceEligibility : ResponseTargetEligibility
  startAt : Option Int
  dueAt : Option Int
  completionAt : Option Int
  result : Option ResponseTargetResult
  stopReason : Option TargetStopReason
  updatedAt : Int
  deriving DecidableEq, Repr

/-- A refused stop: by the code, or by a rule of the table. -/
inductive StopRefusal
  | inbox (error : InboxError)
  | table (rule : String)
  deriving DecidableEq, Repr

/-- A stop that something else came before. -/
def revisionConflict (message : String) : StopRefusal := .inbox ⟨.revisionConflict, message, []⟩

namespace TargetRow

variable (row : TargetRow)

/-- Write the end of a target. The trigger keeps a target that has ended as it is and lets no write
go back in time, and the table takes no handled target that ends before it starts. -/
def save (completionAt : Int) (result : ResponseTargetResult) (stopReason : TargetStopReason)
    (updatedAt : Int) : Except StopRefusal TargetRow :=
  if row.completionAt.isSome ∨ updatedAt < row.updatedAt then
    .error (.table "Response Target snapshot or terminal result cannot be rewritten")
  else if result ≠ .cancelled ∧ row.startAt.any fun startAt ↦ decide (completionAt < startAt) then
    .error (.table "inbox_handling_cycle_response_targets_values_valid")
  else
    .ok { row with
      completionAt := some completionAt
      result := some result
      stopReason := some stopReason
      updatedAt := updatedAt }

/-- Stop a measured Review target once current Google truth is live. -/
def completeGoogleReviewTarget (sourceType : SourceType) (observedAt : Int)
    (repliedAt : Option (Option Int)) : Except StopRefusal TargetRow :=
  if sourceType ≠ .review then
    .error (.inbox (invalidInput "Google Review Response Target requires review"))
  else if row.targetKind ≠ .googleReviewResponse ∨ row.performanceEligibility ≠ .measured then .ok row
  else
    match row.dueAt with
    | none => .error (revisionConflict "Google Review Response Target already stopped")
    | some dueAt =>
        if row.completionAt.isSome then
          .error (revisionConflict "Google Review Response Target already stopped")
        else
          match row.startAt with
          | none => .error (revisionConflict "Google Review Response Target has no start")
          | some startAt =>
              let completedAt := resolveGoogleReplyCompletion repliedAt (some startAt) observedAt
              row.save completedAt (classifyResponseTargetCompletion dueAt completedAt)
                .confirmedOnGoogle observedAt

/-- Stop a measured Private Feedback target: handled, or withdrawn by the guest. -/
def stopPrivateFeedbackTarget (sourceType : SourceType) (completedAt : Int) (withdrawn : Bool) :
    Except StopRefusal TargetRow :=
  if sourceType ≠ .feedback then
    .error (.inbox (invalidInput "Private Feedback Target requires feedback"))
  else if row.targetKind ≠ .privateFeedbackHandling ∨ row.performanceEligibility ≠ .measured then
    .ok row
  else
    match row.dueAt with
    | none => .error (revisionConflict "Private Feedback Target already stopped")
    | some dueAt =>
        if row.completionAt.isSome then
          .error (revisionConflict "Private Feedback Target already stopped")
        else if withdrawn then row.save completedAt .cancelled .guestWithdrawn completedAt
        else
          row.save completedAt (classifyResponseTargetCompletion dueAt completedAt)
            .privateFeedbackHandled completedAt

/-- End an unfinished target whose work episode ends without a response outcome. -/
def cancelResponseTargetForCycle (cancelledAt : Int) (reason : TargetStopReason) :
    Except StopRefusal TargetRow :=
  if row.performanceEligibility ≠ .measured ∨ row.completionAt.isSome then .ok row
  else row.save cancelledAt .cancelled reason cancelledAt

/-- What of a stored target is evaluated. -/
def evaluated (excludedFromReporting : Bool) : EvaluatedTarget where
  eligibility := row.performanceEligibility
  startAt := row.startAt
  dueAt := row.dueAt
  completionAt := row.completionAt
  result := row.result
  excludedFromReporting := excludedFromReporting

end TargetRow

/-! ## Runs -/

/-- A stored target, and whether the exclusion ledger names its cycle. -/
structure TargetState where
  row : TargetRow
  excluded : Bool
  deriving DecidableEq, Repr

/-- What happens to a target: it is evaluated and shown, stopped or left out of reporting. -/
inductive TargetEvent
  | evaluate (now : Int)
  | completeGoogle (sourceType : SourceType) (observedAt : Int) (repliedAt : Option (Option Int))
  | stopFeedback (sourceType : SourceType) (completedAt : Int) (withdrawn : Bool)
  | cancel (cancelledAt : Int) (reason : TargetStopReason)
  | exclude
  deriving DecidableEq, Repr

/-- A showing of a target. -/
structure ShownTarget where
  now : Int
  evaluation : ResponseTargetEvaluation
  deriving DecidableEq, Repr

namespace TargetState

/-- What a stop leaves: a refused one changes nothing. -/
def afterStop (s : TargetState) (stopped : Except StopRefusal TargetRow) : TargetState :=
  match stopped with
  | .ok row => { s with row := row }
  | .error _ => s

/-- One event on a target. -/
def next (s : TargetState) : TargetEvent → TargetState × List ShownTarget
  | .evaluate now => (s, [⟨now, evaluateResponseTarget (s.row.evaluated s.excluded) now⟩])
  | .completeGoogle sourceType observedAt repliedAt =>
      (s.afterStop (s.row.completeGoogleReviewTarget sourceType observedAt repliedAt), [])
  | .stopFeedback sourceType completedAt withdrawn =>
      (s.afterStop (s.row.stopPrivateFeedbackTarget sourceType completedAt withdrawn), [])
  | .cancel cancelledAt reason =>
      (s.afterStop (s.row.cancelResponseTargetForCycle cancelledAt reason), [])
  | .exclude => ({ s with excluded := true }, [])

end TargetState

/-- Targets as a machine that shows them. -/
def targetMachine : Transducer TargetState TargetEvent ShownTarget := ⟨TargetState.next⟩

/-! ## What is shown -/

/-- A target whose timing is known and that counts. -/
structure Measured (target : EvaluatedTarget) (dueAt : Int) : Prop where
  eligibility : target.eligibility = .measured
  counts : target.excludedFromReporting = false
  start : target.startAt.isSome
  due : target.dueAt = some dueAt

/-- An active target is overdue from its due instant on. -/
theorem evaluateResponseTarget_active {target : EvaluatedTarget} {dueAt : Int}
    (h : Measured target dueAt) (active : target.completionAt = none)
    (hresult : target.result = none) (now : Int) :
    (evaluateResponseTarget target now).state = .active ∧
      (evaluateResponseTarget target now).overdue = decide (dueAt ≤ now) := by
  obtain ⟨startAt, hstart⟩ := Option.isSome_iff_exists.1 h.start
  simp [evaluateResponseTarget, hstart, h.due, h.eligibility, h.counts, active, hresult]

/-- A completed target is overdue when it was late. -/
theorem evaluateResponseTarget_completed {target : EvaluatedTarget} {dueAt : Int}
    (h : Measured target dueAt) (completed : target.completionAt.isSome)
    (hresult : target.result ≠ some .cancelled) (now : Int) :
    (evaluateResponseTarget target now).state = .completed ∧
      (evaluateResponseTarget target now).overdue = (target.result == some .late) := by
  obtain ⟨startAt, hstart⟩ := Option.isSome_iff_exists.1 h.start
  simp [evaluateResponseTarget, hstart, h.due, h.eligibility, h.counts, completed, hresult]

theorem classifyResponseTargetCompletion_eq_late_iff {dueAt completionAt : Int} :
    classifyResponseTargetCompletion dueAt completionAt = .late ↔ dueAt < completionAt := by
  rw [classifyResponseTargetCompletion]
  split_ifs with hle
  · simp
    omega
  · simp
    omega

/-- A completion at the due instant or before is on time. -/
theorem classifyResponseTargetCompletion_eq_onTime_iff {dueAt completionAt : Int} :
    classifyResponseTargetCompletion dueAt completionAt = .onTime ↔ completionAt ≤ dueAt := by
  rw [classifyResponseTargetCompletion]
  split_ifs with hle
  · simp [hle]
  · simp [hle]

/-! ## How a target ends -/

/-- What a stop may do to a target: nothing, or end it once, cancelled or as its completion counts. -/
def TargetRow.Ends (dueAt : Int) (row row' : TargetRow) : Prop :=
  row' = row ∨ row.completionAt = none ∧ ∃ completionAt result stopReason updatedAt,
    (result = .cancelled ∨ result = classifyResponseTargetCompletion dueAt completionAt) ∧
      row' = { row with
        completionAt := some completionAt
        result := some result
        stopReason := some stopReason
        updatedAt := updatedAt }

namespace TargetRow

variable {row row' : TargetRow} {dueAt : Int}

theorem save_ends {completionAt : Int} {result : ResponseTargetResult} {stopReason : TargetStopReason}
    {updatedAt : Int} (h : row.save completionAt result stopReason updatedAt = .ok row')
    (hresult : result = .cancelled ∨ result = classifyResponseTargetCompletion dueAt completionAt) :
    row.Ends dueAt row' := by
  obtain ⟨hactive, h⟩ := ok_of_guard h
  obtain ⟨-, h⟩ := ok_of_guard h
  have hnone : row.completionAt = none := by
    rw [not_or, Bool.not_eq_true, Option.isSome_eq_false_iff, Option.isNone_iff_eq_none] at hactive
    exact hactive.1
  exact Or.inr ⟨hnone, completionAt, result, stopReason, updatedAt, hresult, (Except.ok.inj h).symm⟩

theorem completeGoogleReviewTarget_ends (due : row.dueAt = some dueAt) {sourceType : SourceType}
    {observedAt : Int} {repliedAt : Option (Option Int)}
    (h : row.completeGoogleReviewTarget sourceType observedAt repliedAt = .ok row') :
    row.Ends dueAt row' := by
  obtain ⟨-, h⟩ := ok_of_guard h
  simp only [due] at h
  split_ifs at h with hother hended
  · exact Or.inl (Except.ok.inj h).symm
  · cases hstart : row.startAt with
    | none =>
        rw [hstart] at h
        cases h
    | some startAt =>
        rw [hstart] at h
        exact save_ends h (Or.inr rfl)

theorem stopPrivateFeedbackTarget_ends (due : row.dueAt = some dueAt) {sourceType : SourceType}
    {completedAt : Int} {withdrawn : Bool}
    (h : row.stopPrivateFeedbackTarget sourceType completedAt withdrawn = .ok row') :
    row.Ends dueAt row' := by
  obtain ⟨-, h⟩ := ok_of_guard h
  simp only [due] at h
  split_ifs at h with hother hended hwithdrawn
  · exact Or.inl (Except.ok.inj h).symm
  · exact save_ends h (Or.inl rfl)
  · exact save_ends h (Or.inr rfl)

theorem cancelResponseTargetForCycle_ends {cancelledAt : Int} {reason : TargetStopReason}
    (h : row.cancelResponseTargetForCycle cancelledAt reason = .ok row') : row.Ends dueAt row' := by
  rw [cancelResponseTargetForCycle] at h
  split_ifs at h with hended
  · exact Or.inl (Except.ok.inj h).symm
  · exact save_ends h (Or.inl rfl)

end TargetRow

/-! ## Whole runs -/

/-- A stored target of a run: measured, and either without an end or ended as its completion
counts. -/
structure TargetKept (dueAt : Int) (row : TargetRow) : Prop where
  measured : row.performanceEligibility = .measured
  start : row.startAt.isSome
  due : row.dueAt = some dueAt
  ended : row.completionAt = none ∧ row.result = none ∨ ∃ completionAt result,
    row.completionAt = some completionAt ∧ row.result = some result ∧
      (result = .cancelled ∨ result = classifyResponseTargetCompletion dueAt completionAt)

/-- What a showing says of a target, in view of the stored result. -/
structure ShownKept (dueAt : Int) (result : Option ResponseTargetResult) (shown : ShownTarget) :
    Prop where
  active : shown.evaluation.state = .active → shown.evaluation.overdue = decide (dueAt ≤ shown.now)
  completed : shown.evaluation.state = .completed →
    result.isSome ∧ shown.evaluation.overdue = (result == some .late)

variable {dueAt : Int} {row row' : TargetRow}

/-- A stop keeps a target, and a result once stored. -/
theorem TargetKept.ends (h : TargetKept dueAt row) (ends : row.Ends dueAt row') :
    TargetKept dueAt row' ∧ (row.result.isSome → row'.result = row.result) := by
  rcases ends with rfl | ⟨hnone, completionAt, result, stopReason, updatedAt, hresult, rfl⟩
  · exact ⟨h, fun _ ↦ rfl⟩
  · refine ⟨⟨h.measured, h.start, h.due, Or.inr ⟨_, _, rfl, rfl, hresult⟩⟩, ?_⟩
    intro hstored
    rcases h.ended with ⟨-, hempty⟩ | ⟨_, _, hcompleted, -⟩
    · rw [hempty] at hstored
      cases hstored
    · rw [hnone] at hcompleted
      cases hcompleted

/-- A showing of a kept target. -/
theorem TargetKept.shown (h : TargetKept dueAt row) (excluded : Bool) (now : Int) :
    ShownKept dueAt row.result ⟨now, evaluateResponseTarget (row.evaluated excluded) now⟩ := by
  cases excluded with
  | true =>
      obtain ⟨startAt, hstart⟩ := Option.isSome_iff_exists.1 h.start
      constructor <;> simp [evaluateResponseTarget, TargetRow.evaluated, hstart, h.due]
  | false =>
      have hmeasured : Measured (row.evaluated false) dueAt := ⟨h.measured, rfl, h.start, h.due⟩
      rcases h.ended with ⟨hnone, hempty⟩ | ⟨completionAt, result, hcompleted, hresult, -⟩
      · obtain ⟨hstate, hoverdue⟩ := evaluateResponseTarget_active hmeasured hnone hempty now
        exact ⟨fun _ ↦ hoverdue, fun hother ↦ by rw [hstate] at hother; cases hother⟩
      · by_cases hcancelled : result = .cancelled
        · obtain ⟨startAt, hstart⟩ := Option.isSome_iff_exists.1 h.start
          rw [hcancelled] at hresult
          constructor <;>
            simp [evaluateResponseTarget, TargetRow.evaluated, hstart, h.due, h.measured, hresult]
        · have hother : (row.evaluated false).result ≠ some .cancelled := by
            rw [TargetRow.evaluated, hresult]
            simpa using hcancelled
          obtain ⟨hstate, hoverdue⟩ := evaluateResponseTarget_completed hmeasured
            (by rw [TargetRow.evaluated, hcompleted]; rfl) hother now
          refine ⟨fun hactive ↦ ?_, fun _ ↦ ⟨by rw [hresult]; rfl, hoverdue⟩⟩
          rw [hstate] at hactive
          cases hactive

/-- What a run keeps: the target, and what every showing of it said. -/
def RunKept (dueAt : Int) (out : List ShownTarget) (s : TargetState) : Prop :=
  TargetKept dueAt s.row ∧ ∀ shown ∈ out, ShownKept dueAt s.row.result shown

/-- A showing stays true of a target that stops. -/
theorem ShownKept.later {result result' : Option ResponseTargetResult} {shown : ShownTarget}
    (h : ShownKept dueAt result shown) (same : result.isSome → result' = result) :
    ShownKept dueAt result' shown := by
  refine ⟨h.active, fun hcompleted ↦ ?_⟩
  obtain ⟨hsome, hoverdue⟩ := h.completed hcompleted
  rw [same hsome]
  exact ⟨hsome, hoverdue⟩

theorem RunKept.afterStop {out : List ShownTarget} {s : TargetState} (h : RunKept dueAt out s)
    {stopped : Except StopRefusal TargetRow}
    (ends : ∀ row', stopped = .ok row' → s.row.Ends dueAt row') :
    RunKept dueAt out (s.afterStop stopped) := by
  cases stopped with
  | error refusal => exact h
  | ok row' =>
      obtain ⟨hkept, hsame⟩ := h.1.ends (ends row' rfl)
      exact ⟨hkept, fun shown hmem ↦ (h.2 shown hmem).later hsame⟩

/-- Every event keeps the target and what was shown of it. -/
theorem RunKept.next {out : List ShownTarget} {s : TargetState} (h : RunKept dueAt out s)
    (event : TargetEvent) : RunKept dueAt (out ++ (s.next event).2) (s.next event).1 := by
  cases event with
  | evaluate now =>
      refine ⟨h.1, ?_⟩
      intro shown hmem
      rcases List.mem_append.1 hmem with hold | hnew
      · exact h.2 shown hold
      · rw [List.mem_singleton.1 hnew]
        exact h.1.shown s.excluded now
  | completeGoogle sourceType observedAt repliedAt =>
      rw [TargetState.next, List.append_nil]
      exact h.afterStop fun row' ↦ TargetRow.completeGoogleReviewTarget_ends h.1.due
  | stopFeedback sourceType completedAt withdrawn =>
      rw [TargetState.next, List.append_nil]
      exact h.afterStop fun row' ↦ TargetRow.stopPrivateFeedbackTarget_ends h.1.due
  | cancel cancelledAt reason =>
      rw [TargetState.next, List.append_nil]
      exact h.afterStop fun row' ↦ TargetRow.cancelResponseTargetForCycle_ends
  | exclude =>
      rw [TargetState.next, List.append_nil]
      exact h

/-- A measured target as it is recorded, without an end. -/
structure Recorded (dueAt : Int) (row : TargetRow) : Prop where
  measured : row.performanceEligibility = .measured
  start : row.startAt.isSome
  due : row.dueAt = some dueAt
  active : row.completionAt = none
  unanswered : row.result = none

/-- A run from a recorded target keeps it. -/
theorem Recorded.run (h : Recorded dueAt row) (excluded : Bool) (events : List TargetEvent) :
    RunKept dueAt (targetMachine.output ⟨row, excluded⟩ events)
      (targetMachine.final ⟨row, excluded⟩ events) := by
  have hstart : RunKept dueAt [] ⟨row, excluded⟩ := by
    refine ⟨⟨h.measured, h.start, h.due, Or.inl ⟨h.active, h.unanswered⟩⟩, ?_⟩
    intro shown hmem
    cases hmem
  have hrun := targetMachine.invariant (I := RunKept dueAt) (fun out s event hkept ↦ hkept.next event)
    hstart events
  rwa [List.nil_append] at hrun

/-- An active measured target is overdue at an instant exactly when completing it then would be
late or the instant is its due time; a completed one is overdue exactly when its stored result is
late. In a run, a target that was shown at or after its completion without being overdue is not
late, and one completed on time was not shown overdue before its completion. -/
theorem overdue_and_late_agree :
    (∀ target dueAt, Measured target dueAt → target.completionAt = none → target.result = none →
      ∀ now, (evaluateResponseTarget target now).state = .active ∧
        ((evaluateResponseTarget target now).overdue = true ↔
          classifyResponseTargetCompletion dueAt now = .late ∨ now = dueAt)) ∧
    (∀ target dueAt, Measured target dueAt → target.completionAt.isSome →
      target.result ≠ some .cancelled →
      ∀ now, (evaluateResponseTarget target now).state = .completed ∧
        ((evaluateResponseTarget target now).overdue = true ↔ target.result = some .late)) ∧
    ∀ row dueAt, Recorded dueAt row → ∀ excluded events,
      let shownTargets := targetMachine.output ⟨row, excluded⟩ events
      let ended := (targetMachine.final ⟨row, excluded⟩ events).row
      ∀ completionAt, ended.completionAt = some completionAt →
        (∀ shown ∈ shownTargets, shown.evaluation.state = .active →
          shown.evaluation.overdue = false → completionAt ≤ shown.now → ended.result ≠ some .late) ∧
        (ended.result = some .onTime → ∀ shown ∈ shownTargets, shown.evaluation.state = .active →
          shown.now < completionAt → shown.evaluation.overdue = false) ∧
        (∀ shown ∈ shownTargets, shown.evaluation.state = .completed →
          (shown.evaluation.overdue = true ↔ ended.result = some .late)) := by
  refine ⟨?_, ?_, ?_⟩
  · intro target dueAt h active hresult now
    obtain ⟨hstate, hoverdue⟩ := evaluateResponseTarget_active h active hresult now
    refine ⟨hstate, ?_⟩
    rw [hoverdue, decide_eq_true_iff, classifyResponseTargetCompletion_eq_late_iff]
    omega
  · intro target dueAt h completed hresult now
    obtain ⟨hstate, hoverdue⟩ := evaluateResponseTarget_completed h completed hresult now
    exact ⟨hstate, by rw [hoverdue, beq_iff_eq]⟩
  · intro row dueAt h excluded events
    obtain ⟨hkept, hshown⟩ := h.run excluded events
    intro shownTargets ended completionAt hcompletion
    have hclassified : ended.result = some .late ∨ ended.result = some .onTime →
        ended.result = some (classifyResponseTargetCompletion dueAt completionAt) := by
      rcases hkept.ended with ⟨hnone, -⟩ | ⟨at_, result, hat, hresult, hkind⟩
      · rw [hnone] at hcompletion
        cases hcompletion
      · rw [hat] at hcompletion
        cases hcompletion
        intro hended
        rcases hkind with rfl | hclass
        · rw [hresult] at hended
          simp at hended
        · rw [← hclass]
          exact hresult
    refine ⟨?_, ?_, ?_⟩
    · intro shown hmem hactive hquiet hbefore hlate
      have hsame := hclassified (Or.inl hlate)
      rw [hlate, Option.some_inj, eq_comm, classifyResponseTargetCompletion_eq_late_iff] at hsame
      rw [(hshown shown hmem).active hactive, decide_eq_false_iff_not] at hquiet
      omega
    · intro honTime shown hmem hactive hbefore
      have hsame := hclassified (Or.inr honTime)
      rw [honTime, Option.some_inj, eq_comm, classifyResponseTargetCompletion_eq_onTime_iff] at hsame
      rw [(hshown shown hmem).active hactive, decide_eq_false_iff_not]
      omega
    · intro shown hmem hcompleted
      obtain ⟨-, hoverdue⟩ := (hshown shown hmem).completed hcompleted
      rw [hoverdue, beq_iff_eq]

/-- A one-minute target from the start of 1970. -/
def minuteTarget : TargetRow :=
  ⟨.googleReviewResponse, .measured, some 0, some 60000, none, none, none, 0⟩

/-- A reply a millisecond before the due instant, seen after it: overdue when it was read. -/
theorem overdue_and_late_agree_sample :
    (targetMachine.final ⟨minuteTarget, false⟩
        [.evaluate 59998, .evaluate 61000, .completeGoogle .review 62000 (some (some 59999))]).row.result =
      some .onTime ∧
    ∀ shown ∈ targetMachine.output ⟨minuteTarget, false⟩
        [.evaluate 59998, .evaluate 61000, .completeGoogle .review 62000 (some (some 59999))],
      shown.evaluation.state = .active → shown.now < 59999 → shown.evaluation.overdue = false := by
  refine ⟨by decide, ?_⟩
  exact (overdue_and_late_agree.2.2 minuteTarget 60000 ⟨rfl, rfl, rfl, rfl, rfl⟩ false _ 59999
    (by decide)).2.1 (by decide)

/-- At the due instant a target is overdue, and a completion then is on time. -/
theorem overdue_yet_on_time :
    (evaluateResponseTarget (minuteTarget.evaluated false) 60000).overdue = true ∧
    classifyResponseTargetCompletion 60000 60000 = .onTime ∧
    (∃ shown ∈ targetMachine.output ⟨minuteTarget, false⟩
        [.evaluate 60000, .completeGoogle .review 60000 (some (some 60000))],
      shown.now = 60000 ∧ shown.evaluation.overdue = true) ∧
    (targetMachine.final ⟨minuteTarget, false⟩
        [.evaluate 60000, .completeGoogle .review 60000 (some (some 60000))]).row.result =
      some .onTime := by
  decide

end ReputationKey.Inbox
