import Mathlib.Data.List.Basic
import ReputationKey.Review.CommandStore

/-!
# The read ladder of an ambiguous send

When a publication whose outcome nobody knows is read again, and when these reads end. Follows
`src/src/contexts/review/domain/reply-publication-workflow.ts:153–226` and the settlement of a read
in `infrastructure/jobs/reconcile-ambiguous-publications.job.ts:291–356`.
-/

namespace ReputationKey.Review

def minuteMs : Int := 60000

def hourMs : Int := 60 * minuteMs

/-- The window in which Google may not show an accepted write yet. -/
def uncertainSendPropagationGraceMs : Int := 15 * minuteMs

/-- The earliest next read of an uncertain send, and the floor under every rung. -/
def uncertainSendRecheckDelayMs : Int := minuteMs

/-- When an ambiguous publication is read again, as offsets from the attempt's start. -/
def ambiguousReconcileLadderMs : List Int :=
  [15 * minuteMs, 30 * minuteMs, hourMs, 2 * hourMs, 4 * hourMs, 8 * hourMs, 24 * hourMs,
    48 * hourMs, 72 * hourMs]

/-- Whether an uncertain send is inside the propagation grace; `none` is an unreadable time. -/
def canDeferUncertainSend (attemptStartedAt now : Option Int) : Bool :=
  match attemptStartedAt, now with
  | some start, some now =>
      decide (0 ≤ now - start) && decide (now - start < uncertainSendPropagationGraceMs)
  | _, _ => false

/-- The next ladder read: the first rung after the attempt's age, a minute from now at the earliest;
`none` ends the ladder. Follows
`src/src/contexts/review/domain/reply-publication-workflow.ts:219–226`. -/
def nextAmbiguousReconcileDueAt (attemptStartedAt now : Option Int) : Option Int :=
  match attemptStartedAt, now with
  | some attemptStart, some now =>
      let start := min attemptStart now
      match ambiguousReconcileLadderMs.find? fun offset ↦ decide (now - start < offset) with
      | none => none
      | some rung => some (max (start + rung) (now + uncertainSendRecheckDelayMs))
  | _, _ => none

/-- What a reconcile read did with a row. -/
inductive RowOutcome
  | advanced
  | terminal
  | deferred
  | superseded
  deriving DecidableEq, Repr

/-- The outcome of a store command: what it is called when it wrote, or that another write came
first. -/
def rowOutcome (s : Store) (wrote : RowOutcome) : Option Store → RowOutcome × Store
  | none => (.superseded, s)
  | some written => (wrote, written)

/-- A send in flight waits inside its grace, and is ambiguous from then on. Follows
`reconcile-ambiguous-publications.job.ts:297–326`. -/
def waitOrMarkAmbiguous (s : Store) (reply : Reply) (inconclusive : Bool)
    (attemptStartedAt : Option Int) (now : Int) (event : Option Fact) :
    Except ReviewError (RowOutcome × Store) :=
  if attemptStartedAt.isSome && inconclusive && canDeferUncertainSend attemptStartedAt (some now) then
    (deferUncertainSend s reply (now + uncertainSendRecheckDelayMs) now).map (rowOutcome s .deferred)
  else
    (markPublicationAmbiguous s reply (nextAmbiguousReconcileDueAt attemptStartedAt (some now)) now
      event).map (rowOutcome s .advanced)

/-- An ambiguous publication goes to its next rung, or is terminal once the ladder ends. Follows
`reconcile-ambiguous-publications.job.ts:329–356`. -/
def rescheduleOrEndLadder (s : Store) (reply : Reply) (attemptStartedAt : Option Int) (now : Int) :
    Except ReviewError (RowOutcome × Store) :=
  match nextAmbiguousReconcileDueAt attemptStartedAt (some now) with
  | some dueAt =>
      (rescheduleAmbiguousReconciliation s reply dueAt now).map (rowOutcome s .deferred)
  | none => (markPublicationTerminal s reply .ambiguous none).map (rowOutcome s .terminal)

/-! ## One read -/

section Reads

variable {start now later due laterDue rung : Int}

/-- The rungs an attempt of this age has not reached. -/
def rungsAhead (age : Int) : List Int :=
  ambiguousReconcileLadderMs.filter fun offset ↦ decide (age < offset)

/-- The age of an attempt at a read; one that starts later is as old as one that starts now. -/
def attemptAge (start now : Int) : Int := now - min start now

theorem ladder_sorted : ambiguousReconcileLadderMs.Pairwise (· < ·) := by decide

theorem ladder_bounds (h : rung ∈ ambiguousReconcileLadderMs) :
    minuteMs ≤ rung ∧ rung ≤ 72 * hourMs := by
  have hall : (ambiguousReconcileLadderMs.all fun offset ↦
      decide (minuteMs ≤ offset ∧ offset ≤ 72 * hourMs)) = true := by decide
  simpa using List.all_eq_true.1 hall rung h

/-- A read is given the first rung that its attempt's age has not reached. -/
theorem nextAmbiguousReconcileDueAt_eq_some_iff :
    nextAmbiguousReconcileDueAt (some start) (some now) = some due ↔
      ∃ rung, ambiguousReconcileLadderMs.find? (fun offset ↦ decide (attemptAge start now < offset)) =
        some rung ∧ due = max (min start now + rung) (now + minuteMs) := by
  rw [nextAmbiguousReconcileDueAt, attemptAge]
  constructor
  · intro h
    split at h
    · cases h
    · next rung hrung =>
        cases h
        exact ⟨rung, hrung, rfl⟩
  · rintro ⟨rung, hrung, rfl⟩
    simp only [hrung]
    rfl

theorem nextAmbiguousReconcileDueAt_eq_none_iff :
    nextAmbiguousReconcileDueAt (some start) (some now) = none ↔ 72 * hourMs ≤ attemptAge start now := by
  have hlast : 72 * hourMs ∈ ambiguousReconcileLadderMs := by decide
  rw [Option.eq_none_iff_forall_ne_some]
  constructor
  · intro h
    by_contra hlt
    have hfound : (ambiguousReconcileLadderMs.find? fun offset ↦
        decide (attemptAge start now < offset)).isSome := by
      rw [List.find?_isSome]
      exact ⟨72 * hourMs, hlast, decide_eq_true (by omega)⟩
    obtain ⟨rung, hrung⟩ := Option.isSome_iff_exists.1 hfound
    exact h _ (nextAmbiguousReconcileDueAt_eq_some_iff.2 ⟨rung, hrung, rfl⟩)
  · intro hold due hdue
    obtain ⟨rung, hrung, -⟩ := nextAmbiguousReconcileDueAt_eq_some_iff.1 hdue
    have hage := List.find?_some hrung
    have hle := (ladder_bounds (List.mem_of_find?_eq_some hrung)).2
    rw [decide_eq_true_eq] at hage
    omega

/-- The first rung an older attempt has not reached is no earlier rung. -/
theorem first_rung_le {age older : Int} {rung other : Int} (h : age ≤ older)
    (first : ambiguousReconcileLadderMs.find? (fun offset ↦ decide (age < offset)) = some rung)
    (next : ambiguousReconcileLadderMs.find? (fun offset ↦ decide (older < offset)) = some other) :
    rung ≤ other := by
  have hother := List.find?_some next
  rw [decide_eq_true_eq] at hother
  obtain ⟨-, passed, ahead, hladder, hpassed⟩ := List.find?_eq_some_iff_append.1 first
  have hmem := List.mem_of_find?_eq_some next
  have hsorted := ladder_sorted
  rw [hladder] at hmem hsorted
  rcases List.mem_append.1 hmem with hbefore | hbehind
  · have hnot := hpassed other hbefore
    simp only [Bool.not_eq_true', decide_eq_false_iff_not] at hnot
    omega
  · rcases List.mem_cons.1 hbehind with rfl | hahead
    · exact le_refl _
    · exact le_of_lt (List.rel_of_pairwise_cons (List.pairwise_append.1 hsorted).2.1 hahead)

/-- A due time is a minute away at least, and at most at the horizon or a minute away. -/
theorem due_bounds (h : nextAmbiguousReconcileDueAt (some start) (some now) = some due) :
    now + minuteMs ≤ due ∧ due ≤ max (start + 72 * hourMs) (now + minuteMs) := by
  obtain ⟨rung, hrung, rfl⟩ := nextAmbiguousReconcileDueAt_eq_some_iff.1 h
  have hle := (ladder_bounds (List.mem_of_find?_eq_some hrung)).2
  omega

/-- Later reads are given no earlier due times. -/
theorem due_mono (reads : now ≤ later)
    (h : nextAmbiguousReconcileDueAt (some start) (some now) = some due)
    (next : nextAmbiguousReconcileDueAt (some start) (some later) = some laterDue) :
    due ≤ laterDue := by
  obtain ⟨rung, hrung, rfl⟩ := nextAmbiguousReconcileDueAt_eq_some_iff.1 h
  obtain ⟨other, hother, rfl⟩ := nextAmbiguousReconcileDueAt_eq_some_iff.1 next
  have hage : attemptAge start now ≤ attemptAge start later := by
    rw [attemptAge, attemptAge]
    omega
  have hle := first_rung_le hage hrung hother
  omega

/-- Once the ladder has ended it stays ended. -/
theorem due_ended (reads : now ≤ later)
    (h : nextAmbiguousReconcileDueAt (some start) (some now) = none) :
    nextAmbiguousReconcileDueAt (some start) (some later) = none := by
  rw [nextAmbiguousReconcileDueAt_eq_none_iff, attemptAge] at h ⊢
  omega

/-! ## A sequence of reads -/

/-- A read at or after the due time that another was given has fewer rungs ahead. -/
theorem rungsAhead_lt (begun : start ≤ now)
    (h : nextAmbiguousReconcileDueAt (some start) (some now) = some due) (reads : due ≤ later) :
    (rungsAhead (attemptAge start later)).length < (rungsAhead (attemptAge start now)).length := by
  obtain ⟨rung, hrung, hdue⟩ := nextAmbiguousReconcileDueAt_eq_some_iff.1 h
  have hage := List.find?_some hrung
  rw [decide_eq_true_eq] at hage
  have hreached : rung ≤ attemptAge start later := by
    rw [attemptAge]
    omega
  have hsub : rungsAhead (attemptAge start later) =
      (rungsAhead (attemptAge start now)).filter fun offset ↦
        decide (attemptAge start later < offset) := by
    rw [rungsAhead, rungsAhead, List.filter_filter]
    apply List.filter_congr
    intro offset _
    rw [← Bool.decide_and]
    apply decide_eq_decide.2
    omega
  rw [hsub, List.length_filter_lt_length_iff_exists]
  refine ⟨rung, List.mem_filter.2 ⟨List.mem_of_find?_eq_some hrung, decide_eq_true hage⟩, ?_⟩
  rw [decide_eq_true_eq]
  omega

/-- Reads that were each given a due time, the first at or after an instant and each later one at or
after the due time of the one before it. -/
def Rescheduled (start : Int) : Int → List Int → Prop
  | _, [] => True
  | earliest, now :: reads => earliest ≤ now ∧
      ∃ due, nextAmbiguousReconcileDueAt (some start) (some now) = some due ∧
        Rescheduled start due reads

/-- Every rescheduled read uses up a rung. -/
theorem Rescheduled.length_le {reads : List Int} (h : Rescheduled start now reads)
    (begun : start ≤ now) : reads.length ≤ (rungsAhead (attemptAge start now)).length := by
  induction reads generalizing now with
  | nil => exact Nat.zero_le _
  | cons read reads ih =>
      obtain ⟨hread, due, hdue, hrest⟩ := h
      have hminute := (due_bounds hdue).1
      have hpositive : 0 < minuteMs := by decide
      have hlt := rungsAhead_lt (le_trans begun hread) hdue (le_refl due)
      have hle := ih hrest (by omega)
      have hmono : (rungsAhead (attemptAge start read)).length ≤
          (rungsAhead (attemptAge start now)).length := by
        refine (List.monotone_filter_right _ fun offset hoffset ↦ ?_).length_le
        rw [decide_eq_true_eq] at hoffset ⊢
        rw [attemptAge] at hoffset ⊢
        omega
      rw [List.length_cons]
      omega

theorem rungsAhead_le (age : Int) :
    (rungsAhead age).length ≤ ambiguousReconcileLadderMs.length := List.length_filter_le _ _

end Reads

/-! ## The rows of an ambiguous publication -/

section Rows

variable {s s' : Store} {row : Reply} {start : Int} {now due : Int}

/-- A row on the ladder: the manager sees the failure, and its attempt is recorded. -/
structure OnLadder (s : Store) (row : Reply) : Prop where
  stored : s.reply = some row
  failed : row.status = .publishFailed
  ambiguous : row.publicationState = some .ambiguous
  attempted : ∃ attempt ∈ s.attempts, attempt.isCurrentOf row = true

/-- A read that is given a due time stores it, and the row stays on the ladder. -/
theorem rescheduleOrEndLadder_deferred (h : OnLadder s row)
    (next : nextAmbiguousReconcileDueAt (some start) (some now) = some due) :
    ∃ s' saved, rescheduleOrEndLadder s row (some start) now = .ok (.deferred, s') ∧
      OnLadder s' saved ∧ saved.reconcileDueAt = some due := by
  have hahead := (due_bounds next).1
  have hminute : 0 < minuteMs := by decide
  have hsnapshot : uncertainSnapshotFor row ladderAmbiguity =
      some ⟨.publishFailed, .ambiguous, none⟩ := by
    simp [uncertainSnapshotFor, ladderAmbiguity, UncertainSendSnapshot.describes, h.failed,
      h.ambiguous]
  have hmatch : uncertainAttemptWhere row row ⟨.publishFailed, .ambiguous, none⟩ = true := by
    simp [uncertainAttemptWhere, h.failed, h.ambiguous]
  have hcas : casUncertainAttempt s row ⟨.publishFailed, .ambiguous, none⟩ (setReconcileDueAt due) =
      some ({ s with reply := some (applyReplyTrigger row (setReconcileDueAt due row)) },
        applyReplyTrigger row (setReconcileDueAt due row)) := by
    simp only [casUncertainAttempt, h.stored, hmatch, if_true]
  have hwritten : rescheduleOrEndLadder s row (some start) now =
      .ok (.deferred, { s with
        reply := some (applyReplyTrigger row (setReconcileDueAt due row)) }) := by
    simp only [rescheduleOrEndLadder, next, rescheduleAmbiguousReconciliation, deferUncertain,
      hsnapshot, hcas]
    rw [if_neg (by omega)]
    rfl
  exact ⟨_, _, hwritten, ⟨rfl, h.failed, h.ambiguous, h.attempted⟩, rfl⟩

/-- A transition of the stored row itself goes through in the states it allows, if the write that
follows it does. -/
theorem publicationTransition_stored {event : PublicationStateEvent}
    {state target : PersistedPublicationState} {states : List PersistedPublicationState}
    {set : PersistedPublicationState → Reply → Reply} {settled : Store}
    {afterWrite : Store → Reply → Except ReviewError Store} {fact : Option Fact}
    (stored : s.reply = some row) (inState : row.publicationState = some state)
    (moves : persistedPublicationTransitions state event = some target)
    (allowed : states.contains state = true)
    (after : afterWrite { s with reply := some (applyReplyTrigger row (set target row)) }
      (applyReplyTrigger row (set target row)) = .ok settled) :
    publicationTransition s row event states set afterWrite fact =
      .ok (some (settled.recordOptional fact)) := by
  have hnext : nextPublicationState row.publicationState event = some target := by
    rw [inState]
    exact moves
  have hmatch : publicationSnapshotMatches row row row.status = true := by
    simp [publicationSnapshotMatches]
  have hguard : guardedPublicationUpdate s row row.status states (set target) =
      some ({ s with reply := some (applyReplyTrigger row (set target row)) },
        applyReplyTrigger row (set target row)) := by
    simp only [guardedPublicationUpdate, inState, allowed, stored, hmatch, Bool.not_true,
      Bool.false_eq_true, if_false, if_true]
  simp only [publicationTransition, hnext, hguard, after]

/-- The attempt the reply points at is found, and stays the one it points at. -/
theorem updateCurrentAttempt_stored {saved : Reply} (outcome : AttemptOutcome)
    (attempted : ∃ attempt ∈ s.attempts, attempt.isCurrentOf saved = true) :
    ∃ settled, updateCurrentAttempt s saved (PublicationAttempt.setOutcome outcome) none = .ok settled ∧
      settled.reply = s.reply ∧ ∃ attempt ∈ settled.attempts, attempt.isCurrentOf saved = true := by
  obtain ⟨attempt, hattempt, hcurrent⟩ := attempted
  have hin : attempt.isCurrentIn saved none = true := by
    rw [PublicationAttempt.isCurrentIn, Option.all_none, Bool.and_true]
    exact hcurrent
  refine ⟨_, if_pos (List.any_eq_true.2 ⟨attempt, hattempt, hin⟩), rfl,
    attempt.setOutcome outcome, List.mem_map.2 ⟨attempt, hattempt, if_pos hin⟩, hcurrent⟩

/-- A row that was marked ambiguous, with its first ladder read. -/
def markedAmbiguous (row : Reply) (dueAt : Int) : Reply :=
  applyReplyTrigger row
    { row with
      status := .publishFailed
      publicationState := some .ambiguous
      publicationLastErrorClass := some .ambiguous
      reconcileDueAt := some dueAt }

/-- A row that ended without an answer. -/
def endedAmbiguous (row : Reply) : Reply :=
  applyReplyTrigger row
    { row with
      status := .publishFailed
      publicationState := some .terminal
      publicationLastErrorClass := some .ambiguous
      reconcileDueAt := none }

/-- A send whose grace has closed, or whose read was conclusive, goes onto the ladder: to the rung
after its age, or a quarter of an hour from now past the last one. -/
theorem waitOrMarkAmbiguous_advanced {inconclusive : Bool} {event : Option Fact}
    (stored : s.reply = some row) (sending : row.publicationState = some .sending)
    (attempted : ∃ attempt ∈ s.attempts, attempt.isCurrentOf row = true)
    (closed : (inconclusive && canDeferUncertainSend (some start) (some now)) = false) :
    ∃ s' saved, waitOrMarkAmbiguous s row inconclusive (some start) now event = .ok (.advanced, s') ∧
      OnLadder s' saved ∧ saved.reconcileDueAt =
        some ((nextAmbiguousReconcileDueAt (some start) (some now)).getD
          (now + ambiguousReconcileDelayMs)) := by
  have hahead : (nextAmbiguousReconcileDueAt (some start) (some now)).any
      (fun due ↦ decide (due ≤ now)) = false := by
    have hminute : 0 < minuteMs := by decide
    cases hnext : nextAmbiguousReconcileDueAt (some start) (some now) with
    | none => rfl
    | some due =>
        have hdue := (due_bounds hnext).1
        exact decide_eq_false (by omega)
  let saved := markedAmbiguous row
    ((nextAmbiguousReconcileDueAt (some start) (some now)).getD (now + ambiguousReconcileDelayMs))
  obtain ⟨settled, hsettled, hreply, hattempt⟩ :=
    @updateCurrentAttempt_stored { s with reply := some saved } saved .ambiguous attempted
  have hmarked : markPublicationAmbiguous s row
      (nextAmbiguousReconcileDueAt (some start) (some now)) now event =
        .ok (some (settled.recordOptional event)) := by
    rw [markPublicationAmbiguous, if_neg (by rw [hahead]; exact fun h ↦ Bool.false_ne_true h.2)]
    exact publicationTransition_stored stored sending rfl rfl hsettled
  refine ⟨settled.recordOptional event, saved, ?_, ⟨?_, rfl, rfl, ?_⟩, rfl⟩
  · rw [waitOrMarkAmbiguous, Option.isSome_some, Bool.true_and, closed, if_neg Bool.false_ne_true,
      hmarked]
    rfl
  · cases event <;> exact hreply
  · cases event <;> exact hattempt

/-- A read that is given none ends in the terminal state. -/
theorem rescheduleOrEndLadder_terminal (h : OnLadder s row)
    (next : nextAmbiguousReconcileDueAt (some start) (some now) = none) :
    ∃ s', rescheduleOrEndLadder s row (some start) now = .ok (.terminal, s') ∧
      s'.reply = some (endedAmbiguous row) := by
  have hended (settled : Store)
      (after : (if (endedAmbiguous row).publicationAttempts < 1 then
          Except.ok { s with reply := some (endedAmbiguous row) }
        else updateCurrentAttempt { s with reply := some (endedAmbiguous row) } (endedAmbiguous row)
          (PublicationAttempt.setOutcome .ambiguous) none) = .ok settled) :
      rescheduleOrEndLadder s row (some start) now = .ok (.terminal, settled) := by
    have hmarked : markPublicationTerminal s row .ambiguous none = .ok (some settled) :=
      publicationTransition_stored h.stored h.ambiguous rfl rfl after
    rw [rescheduleOrEndLadder, next]
    simp only [hmarked]
    rfl
  by_cases hnever : (endedAmbiguous row).publicationAttempts < 1
  · exact ⟨_, hended _ (if_pos hnever), rfl⟩
  · obtain ⟨settled, hsettled, hreply, -⟩ :=
      @updateCurrentAttempt_stored { s with reply := some (endedAmbiguous row) } (endedAmbiguous row)
        .ambiguous h.attempted
    exact ⟨settled, hended settled ((if_neg hnever).trans hsettled), hreply⟩

/-- Reads of the stored row, each at or after the due time it holds, that all put the next read off.
-/
inductive LadderRun (start : Int) : Store → List Int → Store → Prop
  | nil (s : Store) : LadderRun start s [] s
  | read {s next s' : Store} {row : Reply} {now : Int} {reads : List Int} :
      s.reply = some row → (∀ due ∈ row.reconcileDueAt, due ≤ now) →
      rescheduleOrEndLadder s row (some start) now = .ok (.deferred, next) →
      LadderRun start next reads s' → LadderRun start s (now :: reads) s'

/-- The next read of a run comes at or after the stored due time. -/
theorem LadderRun.due_le_head {reads : List Int} (run : LadderRun start s reads s')
    (stored : s.reply = some row) (dated : row.reconcileDueAt = some due) :
    ∀ read ∈ reads.head?, due ≤ read := by
  cases run with
  | nil => exact fun read hread ↦ by cases hread
  | read hstored hdue _ _ =>
      rintro read ⟨⟩
      rw [stored, Option.some.injEq] at hstored
      subst hstored
      exact hdue due dated

/-- A run of reads follows the due times that the ladder gives, and stays on it. -/
theorem LadderRun.rescheduled {reads : List Int} (run : LadderRun start s reads s')
    (h : OnLadder s row) (begun : ∀ read ∈ reads.head?, now ≤ read) :
    Rescheduled start now reads ∧ ∃ saved, OnLadder s' saved := by
  induction run generalizing row now with
  | nil s => exact ⟨trivial, row, h⟩
  | @read s next s' stored read reads hstored _ hread hrun ih =>
      rw [h.stored, Option.some.injEq] at hstored
      subst hstored
      cases hnext : nextAmbiguousReconcileDueAt (some start) (some read) with
      | none =>
          obtain ⟨_, hended, -⟩ := rescheduleOrEndLadder_terminal h hnext
          rw [hended] at hread
          cases hread
      | some due =>
          obtain ⟨after, saved, hwritten, hladder, hdated⟩ := rescheduleOrEndLadder_deferred h hnext
          rw [hwritten] at hread
          cases hread
          obtain ⟨hrest, hend⟩ := ih hladder (hrun.due_le_head hladder.stored hdated)
          exact ⟨⟨begun read rfl, due, hnext, hrest⟩, hend⟩

end Rows

/-- The ambiguous-send ladder ends. Whatever the start and the read, a due time is at least a minute
after the read and at most 72 hours after the start or a minute after the read; it is monotone in
the read, and stays ended once it has ended. Reads that were each put off, the first at or after the
start and each later one at or after the due time it was given, are no more than the ladder's rungs;
and the reconcile job's reads of the stored row are such reads, and leave a row that the next due
read puts off again or makes terminal. -/
theorem ambiguous_ladder_ends (start : Int) :
    (∀ now due, nextAmbiguousReconcileDueAt (some start) (some now) = some due →
      now + minuteMs ≤ due ∧ due ≤ max (start + 72 * hourMs) (now + minuteMs)) ∧
    (∀ now later, now ≤ later →
      (∀ due ∈ nextAmbiguousReconcileDueAt (some start) (some now),
        ∀ laterDue ∈ nextAmbiguousReconcileDueAt (some start) (some later), due ≤ laterDue) ∧
      (nextAmbiguousReconcileDueAt (some start) (some now) = none →
        nextAmbiguousReconcileDueAt (some start) (some later) = none)) ∧
    (∀ reads, Rescheduled start start reads → reads.length ≤ ambiguousReconcileLadderMs.length) ∧
    ∀ s row reads s', OnLadder s row → LadderRun start s reads s' →
      (∀ read ∈ reads.head?, start ≤ read) →
      reads.length ≤ ambiguousReconcileLadderMs.length ∧
      ∃ saved, OnLadder s' saved ∧ ∀ now,
        (∀ due, nextAmbiguousReconcileDueAt (some start) (some now) = some due →
          ∃ next, rescheduleOrEndLadder s' saved (some start) now = .ok (.deferred, next)) ∧
        (nextAmbiguousReconcileDueAt (some start) (some now) = none →
          ∃ next ended, rescheduleOrEndLadder s' saved (some start) now = .ok (.terminal, next) ∧
            next.reply = some ended ∧ ended.publicationState = some .terminal) := by
  have hcount (reads : List Int) (h : Rescheduled start start reads) :
      reads.length ≤ ambiguousReconcileLadderMs.length :=
    le_trans (h.length_le (le_refl start)) (rungsAhead_le _)
  refine ⟨fun now due ↦ due_bounds, fun now later hle ↦ ⟨?_, due_ended hle⟩, hcount, ?_⟩
  · exact fun due hdue laterDue hlater ↦ due_mono hle hdue hlater
  · intro s row reads s' hladder hrun hbegun
    obtain ⟨hreads, saved, hsaved⟩ := hrun.rescheduled hladder hbegun
    refine ⟨hcount reads hreads, saved, hsaved, fun now ↦ ⟨fun due hdue ↦ ?_, fun hended ↦ ?_⟩⟩
    · obtain ⟨next, _, hnext, -⟩ := rescheduleOrEndLadder_deferred hsaved hdue
      exact ⟨next, hnext⟩
    · obtain ⟨next, hnext, hstored⟩ := rescheduleOrEndLadder_terminal hsaved hended
      exact ⟨next, endedAmbiguous saved, hnext, hstored, rfl⟩

/-- Two reads of an attempt that started at 0: a late one, and one past the horizon. -/
theorem ambiguous_ladder_ends_late :
    nextAmbiguousReconcileDueAt (some 0) (some (5 * hourMs)) = some (8 * hourMs) ∧
      8 * hourMs ≤ 72 * hourMs ∧ [5 * hourMs].length ≤ ambiguousReconcileLadderMs.length ∧
      nextAmbiguousReconcileDueAt (some 0) (some (80 * hourMs)) = none := by
  obtain ⟨hbounds, hmono, hcount, -⟩ := ambiguous_ladder_ends 0
  have hdue : nextAmbiguousReconcileDueAt (some 0) (some (5 * hourMs)) = some (8 * hourMs) := by
    decide
  have hlast : nextAmbiguousReconcileDueAt (some 0) (some (72 * hourMs)) = none := by decide
  have hle := (hbounds _ _ hdue).2
  refine ⟨hdue, ?_, hcount _ ⟨by decide, _, hdue, trivial⟩, (hmono _ _ ?_).2 hlast⟩
  · exact le_trans hle (by decide)
  · decide

end ReputationKey.Review
