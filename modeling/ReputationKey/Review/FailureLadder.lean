import ReputationKey.Review.Discovery
import Mathlib.Data.List.Chain
import Mathlib.Algebra.Order.Ring.Int

/-!
# The retry ladder of snapshot failures

What a history of failures and completed runs waits, by the rung that each failure stands on, and
which runs the Property's stored failure accounts for while the two writes of a failure, crashes and
redriven steps interleave. Follows `src/src/contexts/review/domain/snapshot-failure-backoff.ts` and
`infrastructure/jobs/sync-property-reviews.job.ts:196–206, 397–437, 515–559`.
-/

namespace ReputationKey.Review

open ReputationKey.Base

/-! ## Waits by rung -/

/-- The wait on a rung of the ladder, the first rung being 1. -/
def rungWaitMs (baseIntervalMs : Int) (rung : ℕ) : Int :=
  max baseIntervalMs (min snapshotFailureMaxRetryMs (baseIntervalMs * 4 ^ (rung - 1)))

/-- Whether a failure comes before the retry of the outstanding one is due. -/
def isQueueRetry (property : PropertyDiscovery) (now : Int) : Bool :=
  property.errorClass.isSome && property.errorRetryAt.any fun retryAt ↦ decide (now < retryAt)

/-- The rung after an event. -/
def DiscoveryEvent.rung (property : PropertyDiscovery) (rung : ℕ) : DiscoveryEvent → ℕ
  | .snapshotFailed now _ _ => if isQueueRetry property now then rung else rung + 1
  | .syncSucceeded => 0
  | _ => rung

/-- Whether an event leaves the failure columns alone or clears them. -/
def DiscoveryEvent.storesNoFailure : DiscoveryEvent → Bool
  | .look _ (.failed true) => false
  | .snapshotFailed _ _ _ => false
  | _ => true

/-- Whether a failure the event stores waits on the ladder. -/
def DiscoveryEvent.onLadder : DiscoveryEvent → Bool
  | .snapshotFailed _ locationTooLarge _ => !locationTooLarge
  | event => event.storesNoFailure

/-- What a Property's rows hold on a rung: nothing outstanding, or a failure dated with the rung's
wait. -/
def OnRung (baseIntervalMs : Int) (property : PropertyDiscovery) : ℕ → Prop
  | 0 => property.errorClass = none
  | rung + 1 => property.errorClass.isSome = true ∧ ∃ failedAt,
      property.lastTerminalErrorAt = some failedAt ∧
        property.errorRetryAt = some (failedAt + rungWaitMs baseIntervalMs (rung + 1))

section Rungs

variable {base now : Int} {property : PropertyDiscovery} {rung : ℕ}

theorem le_rungWaitMs : base ≤ rungWaitMs base rung := le_max_left _ _

theorem rungWaitMs_one : rungWaitMs base 1 = base := by
  simp only [rungWaitMs, Nat.sub_self, pow_zero, mul_one]
  omega

/-- A rung waits four times the one before it, between the base and the cap. -/
theorem rungWaitMs_succ (positive : 0 < base) :
    rungWaitMs base (rung + 2) =
      max base (min snapshotFailureMaxRetryMs (rungWaitMs base (rung + 1) * 4)) := by
  have hstep : base * 4 ^ (rung + 2 - 1) = base * 4 ^ (rung + 1 - 1) * 4 := by
    rw [Nat.add_sub_cancel, show rung + 2 - 1 = rung + 1 from rfl, pow_succ, mul_assoc]
  have hbase : base ≤ base * 4 ^ (rung + 1 - 1) :=
    le_mul_of_one_le_right positive.le (one_le_pow₀ (by decide))
  rw [rungWaitMs, rungWaitMs, hstep, snapshotFailureMaxRetryMs]
  omega

theorem rungWaitMs_le_succ (positive : 0 < base) :
    rungWaitMs base (rung + 1) ≤ rungWaitMs base (rung + 2) := by
  have hbase : base ≤ rungWaitMs base (rung + 1) := le_rungWaitMs
  have hcap : rungWaitMs base (rung + 1) ≤ max base snapshotFailureMaxRetryMs := by
    rw [rungWaitMs]
    omega
  rw [rungWaitMs_succ positive, snapshotFailureMaxRetryMs] at *
  omega

/-- A failure on the ladder waits what its rung waits. -/
theorem snapshotFailureRetryMs_of_onRung (now : Int) (positive : 0 < base)
    (on : OnRung base property rung) :
    snapshotFailureRetryMs property now base false =
      rungWaitMs base (if isQueueRetry property now then rung else rung + 1) := by
  cases rung with
  | zero =>
      have hclass : property.errorClass = none := on
      have hearly : isQueueRetry property now = false := by
        rw [isQueueRetry, hclass]
        rfl
      rw [snapshotFailureRetryMs, if_neg Bool.false_ne_true, if_pos hclass, hearly]
      exact rungWaitMs_one.symm
  | succ rung =>
      obtain ⟨hclass, failedAt, hfailed, hretry⟩ := on
      have hbase : base ≤ rungWaitMs base (rung + 1) := le_rungWaitMs
      have hcap : rungWaitMs base (rung + 1) ≤ max base snapshotFailureMaxRetryMs := by
        rw [rungWaitMs]
        omega
      have hwait : previousWaitMs property = some (rungWaitMs base (rung + 1)) := by
        have hpos : 0 < failedAt + rungWaitMs base (rung + 1) - failedAt := by omega
        simp only [previousWaitMs, hfailed, hretry]
        rw [if_pos hpos]
        congr 1
        omega
      have hearly : isQueueRetry property now =
          property.errorRetryAt.any fun retryAt ↦ decide (now < retryAt) := by
        rw [isQueueRetry, hclass, Bool.true_and]
      have hsome : property.errorClass ≠ none := Option.isSome_iff_ne_none.1 hclass
      rw [snapshotFailureRetryMs, if_neg Bool.false_ne_true, if_neg hsome, hwait, ← hearly]
      simp only [Option.getD_some]
      split_ifs with hqueue
      · rw [snapshotFailureMaxRetryMs] at *
        omega
      · rw [rungWaitMs_succ positive, snapshotFailureMaxRetryMs] at *
        rw [snapshotFailureBackoffFactor]
        omega

end Rungs

/-! ## Histories -/

section Histories

variable {sweep : DiscoverySweep} {property : PropertyDiscovery} {rung : ℕ}

/-- What an event that stores no failure leaves of the failure columns. -/
theorem apply_storesNoFailure (sweep : DiscoverySweep) (property : PropertyDiscovery)
    {event : DiscoveryEvent} (h : event.storesNoFailure = true) :
    (event.apply sweep property).lastTerminalErrorAt = property.lastTerminalErrorAt ∧
      (event = .syncSucceeded ∧ (event.apply sweep property).errorClass = none ∨
        event ≠ .syncSucceeded ∧ (event.apply sweep property).errorClass = property.errorClass ∧
          (event.apply sweep property).errorRetryAt = property.errorRetryAt) := by
  cases event with
  | look now enqueue =>
      simp only [DiscoveryEvent.apply, DiscoverySweep.lookAtCandidate]
      cases sweep.lookFor property now with
      | skip => exact ⟨rfl, Or.inr ⟨by simp, rfl, rfl⟩⟩
      | full =>
          rcases enqueue with _ | _ | _
          · exact ⟨rfl, Or.inr ⟨by simp, rfl, rfl⟩⟩
          · exact ⟨rfl, Or.inr ⟨by simp, rfl, rfl⟩⟩
          · cases h
  | syncSucceeded => exact ⟨rfl, Or.inl ⟨rfl, rfl⟩⟩
  | snapshotFailed => cases h
  | pulledForward now reconciledSince =>
      simp only [DiscoveryEvent.apply, pullLooksForward]
      split_ifs
      · exact ⟨rfl, Or.inr ⟨by simp, rfl, rfl⟩⟩
      · exact ⟨rfl, Or.inr ⟨by simp, rfl, rfl⟩⟩
  | reconciled => exact ⟨rfl, Or.inr ⟨by simp, rfl, rfl⟩⟩
  | newReviewObserved => exact ⟨rfl, Or.inr ⟨by simp, rfl, rfl⟩⟩
  | pushObserved => exact ⟨rfl, Or.inr ⟨by simp, rfl, rfl⟩⟩
  | sourceEpochChanged => exact ⟨rfl, Or.inr ⟨by simp, rfl, rfl⟩⟩

theorem rung_of_storesNoFailure {event : DiscoveryEvent} (h : event.storesNoFailure = true)
    (ne : event ≠ .syncSucceeded) : event.rung property rung = rung := by
  cases event <;> first | rfl | exact absurd rfl ne | cases h

theorem snapshotFailed_of_onLadder {event : DiscoveryEvent} (h : event.onLadder = true)
    (stores : ¬event.storesNoFailure = true) :
    ∃ now code, event = .snapshotFailed now false code := by
  cases event with
  | snapshotFailed now locationTooLarge code =>
      cases locationTooLarge with
      | false => exact ⟨now, code, rfl⟩
      | true => cases h
  | look now enqueue => exact absurd h stores
  | _ => exact absurd rfl stores

/-- A failure stands on a rung. -/
theorem rung_snapshotFailed {base : Int} (now : Int) (on : OnRung base property rung) (code : String) :
    ∃ next, DiscoveryEvent.rung property rung (.snapshotFailed now false code) = next + 1 := by
  rw [DiscoveryEvent.rung]
  cases rung with
  | zero =>
      have hclass : property.errorClass = none := on
      exact ⟨0, by simp [isQueueRetry, hclass]⟩
  | succ rung =>
      split_ifs
      · exact ⟨rung, rfl⟩
      · exact ⟨rung + 1, rfl⟩

/-- An event on the ladder leaves its rung in the rows. -/
theorem onRung_apply {event : DiscoveryEvent} (positive : 0 < sweep.baseIntervalMs)
    (on : OnRung sweep.baseIntervalMs property rung) (h : event.onLadder = true) :
    OnRung sweep.baseIntervalMs (event.apply sweep property) (event.rung property rung) := by
  by_cases hstores : event.storesNoFailure = true
  · obtain ⟨hfailed, ⟨rfl, hclass⟩ | ⟨hne, hclass, hretry⟩⟩ :=
      apply_storesNoFailure sweep property hstores
    · exact hclass
    · rw [rung_of_storesNoFailure hstores hne]
      cases rung with
      | zero => exact hclass.trans on
      | succ rung =>
          rw [OnRung, hclass, hfailed, hretry]
          exact on
  · obtain ⟨now, code, rfl⟩ := snapshotFailed_of_onLadder h hstores
    have hwait := snapshotFailureRetryMs_of_onRung now positive on
    obtain ⟨next, hnext⟩ := rung_snapshotFailed now on code
    rw [hnext]
    refine ⟨rfl, now, rfl, ?_⟩
    rw [← hnext, DiscoveryEvent.rung, ← hwait]
    rfl

/-- A failure of a history: when it was recorded, on which rung, and what it waits. -/
structure LadderFailure where
  now : Int
  rung : ℕ
  waitMs : Int
  deriving DecidableEq, Repr

/-- The failure an event records. -/
def DiscoveryEvent.failure (sweep : DiscoverySweep) (property : PropertyDiscovery) (rung : ℕ)
    (event : DiscoveryEvent) : Option LadderFailure :=
  match event with
  | .snapshotFailed now locationTooLarge _ =>
      some ⟨now, event.rung property rung,
        snapshotFailureRetryMs property now sweep.baseIntervalMs locationTooLarge⟩
  | _ => none

/-- The failures of a history, oldest first. -/
def ladderFailures (sweep : DiscoverySweep) (property : PropertyDiscovery) (rung : ℕ) :
    List DiscoveryEvent → List LadderFailure
  | [] => []
  | event :: later =>
      (event.failure sweep property rung).toList ++
        ladderFailures sweep (event.apply sweep property) (event.rung property rung) later

/-- Every failure waits what its rung waits. -/
theorem waitMs_of_mem_ladderFailures {events : List DiscoveryEvent}
    (positive : 0 < sweep.baseIntervalMs) (on : OnRung sweep.baseIntervalMs property rung)
    (ladder : ∀ event ∈ events, event.onLadder = true) :
    ∀ failure ∈ ladderFailures sweep property rung events,
      failure.waitMs = rungWaitMs sweep.baseIntervalMs failure.rung := by
  induction events generalizing property rung with
  | nil => exact List.forall_mem_nil _
  | cons event events ih =>
      have hevent := ladder event List.mem_cons_self
      intro failure hmem
      rcases List.mem_append.1 hmem with hmem | hmem
      · cases event with
        | snapshotFailed now locationTooLarge code =>
            cases locationTooLarge with
            | true => cases hevent
            | false =>
                rw [List.mem_singleton.1 hmem]
                exact snapshotFailureRetryMs_of_onRung now positive on
        | _ => cases hmem
      · exact ih (onRung_apply positive on hevent)
          (fun e mem ↦ ladder e (List.mem_cons_of_mem _ mem)) failure hmem

/-- How a failure follows the one before it: before its retry date, on the same rung with the same
wait; else one rung up. No wait is shorter than the one before it. -/
def LadderFailure.Next (earlier later : LadderFailure) : Prop :=
  (later.now < earlier.now + earlier.waitMs →
    later.rung = earlier.rung ∧ later.waitMs = earlier.waitMs) ∧
  (earlier.now + earlier.waitMs ≤ later.now → later.rung = earlier.rung + 1) ∧
  earlier.waitMs ≤ later.waitMs

/-- The failure that a Property's rows hold on a rung. -/
def storedLadderFailure (base : Int) (property : PropertyDiscovery) : ℕ → Option LadderFailure
  | 0 => none
  | rung + 1 => property.lastTerminalErrorAt.map fun failedAt ↦
      ⟨failedAt, rung + 1, rungWaitMs base (rung + 1)⟩

/-- A failure follows the one that the rows hold. -/
theorem next_of_onRung {now : Int} {stored : LadderFailure} (positive : 0 < sweep.baseIntervalMs)
    (on : OnRung sweep.baseIntervalMs property rung)
    (hstored : stored ∈ storedLadderFailure sweep.baseIntervalMs property rung) (code : String) :
    stored.Next ⟨now, DiscoveryEvent.rung property rung (.snapshotFailed now false code),
      snapshotFailureRetryMs property now sweep.baseIntervalMs false⟩ := by
  cases rung with
  | zero => cases hstored
  | succ rung =>
      have hwait := snapshotFailureRetryMs_of_onRung now positive on
      obtain ⟨hclass, failedAt, hfailed, hretry⟩ := on
      have hearly : isQueueRetry property now =
          decide (now < failedAt + rungWaitMs sweep.baseIntervalMs (rung + 1)) := by
        rw [isQueueRetry, hclass, hretry]
        rfl
      have heq : stored =
          ⟨failedAt, rung + 1, rungWaitMs sweep.baseIntervalMs (rung + 1)⟩ := by
        rw [storedLadderFailure, hfailed] at hstored
        exact (Option.some.inj hstored).symm
      have hle : rungWaitMs sweep.baseIntervalMs (rung + 1) ≤
          rungWaitMs sweep.baseIntervalMs (rung + 2) := rungWaitMs_le_succ positive
      rw [heq, hwait]
      simp only [LadderFailure.Next, DiscoveryEvent.rung, hearly, decide_eq_true_eq]
      split_ifs with hlt
      · exact ⟨fun _ ↦ ⟨rfl, rfl⟩, fun h ↦ by omega, le_refl _⟩
      · exact ⟨fun h ↦ absurd h hlt, fun _ ↦ rfl, hle⟩

/-- Without a completed run each failure follows the one before it. -/
theorem isChain_ladderFailures {events : List DiscoveryEvent} (positive : 0 < sweep.baseIntervalMs)
    (on : OnRung sweep.baseIntervalMs property rung)
    (ladder : ∀ event ∈ events, event.onLadder = true ∧ event ≠ .syncSucceeded) :
    List.IsChain LadderFailure.Next
      ((storedLadderFailure sweep.baseIntervalMs property rung).toList ++
        ladderFailures sweep property rung events) := by
  induction events generalizing property rung with
  | nil =>
      rw [ladderFailures, List.append_nil]
      cases storedLadderFailure sweep.baseIntervalMs property rung with
      | none => exact .nil
      | some stored => exact .singleton _
  | cons event events ih =>
      obtain ⟨hladder, hne⟩ := ladder event List.mem_cons_self
      have hrest := ih (onRung_apply positive on hladder)
        fun e mem ↦ ladder e (List.mem_cons_of_mem _ mem)
      by_cases hstores : event.storesNoFailure = true
      · obtain ⟨hfailed, -⟩ := apply_storesNoFailure sweep property hstores
        have hnone : event.failure sweep property rung = none := by
          cases event <;> first | rfl | cases hstores
        have hsame : storedLadderFailure sweep.baseIntervalMs (event.apply sweep property) rung =
            storedLadderFailure sweep.baseIntervalMs property rung := by
          cases rung with
          | zero => rfl
          | succ rung => rw [storedLadderFailure, storedLadderFailure, hfailed]
        rw [rung_of_storesNoFailure hstores hne, hsame] at hrest
        rw [ladderFailures, hnone, rung_of_storesNoFailure hstores hne]
        exact hrest
      · obtain ⟨now, code, rfl⟩ := snapshotFailed_of_onLadder hladder hstores
        obtain ⟨next, hnext⟩ := rung_snapshotFailed now on code
        have hwait := snapshotFailureRetryMs_of_onRung now positive on
        have hentry : storedLadderFailure sweep.baseIntervalMs
            (DiscoveryEvent.apply sweep property (.snapshotFailed now false code))
            (DiscoveryEvent.rung property rung (.snapshotFailed now false code)) =
              DiscoveryEvent.failure sweep property rung (.snapshotFailed now false code) := by
          rw [DiscoveryEvent.failure, hwait, ← DiscoveryEvent.rung, hnext]
          rfl
        rw [hentry] at hrest
        cases hstored : storedLadderFailure sweep.baseIntervalMs property rung with
        | none => exact hrest
        | some stored => exact .cons_cons (next_of_onRung positive on hstored code) hrest

/-- The first failure stands on the first rung. -/
theorem head_ladderFailures {events : List DiscoveryEvent} (fresh : property.errorClass = none)
    (ladder : ∀ event ∈ events, event.onLadder = true) :
    ∀ failure ∈ (ladderFailures sweep property 0 events).head?, failure.rung = 1 := by
  induction events generalizing property with
  | nil =>
      intro failure hmem
      cases hmem
  | cons event events ih =>
      by_cases hstores : event.storesNoFailure = true
      · have hnone : event.failure sweep property 0 = none := by
          cases event <;> first | rfl | cases hstores
        have hrung : event.rung property 0 = 0 := by
          cases event <;> first | rfl | cases hstores
        have hclass : (event.apply sweep property).errorClass = none := by
          obtain ⟨-, h | h⟩ := apply_storesNoFailure sweep property hstores
          · exact h.2
          · exact h.2.1.trans fresh
        rw [ladderFailures, hnone, hrung]
        exact ih hclass fun e mem ↦ ladder e (List.mem_cons_of_mem _ mem)
      · have hladder := ladder event List.mem_cons_self
        obtain ⟨now, code, rfl⟩ := snapshotFailed_of_onLadder hladder hstores
        have hearly : isQueueRetry property now = false := by simp [isQueueRetry, fresh]
        intro failure hmem
        cases hmem
        simp [DiscoveryEvent.rung, hearly]

/-- A completed run restarts the ladder. -/
theorem ladderFailures_syncSucceeded (property : PropertyDiscovery) (rung : ℕ)
    (earlier later : List DiscoveryEvent) :
    ∃ restarted : PropertyDiscovery, restarted.errorClass = none ∧
      ladderFailures sweep property rung (earlier ++ .syncSucceeded :: later) =
        ladderFailures sweep property rung earlier ++ ladderFailures sweep restarted 0 later := by
  induction earlier generalizing property rung with
  | nil => exact ⟨markSyncSucceeded property, rfl, rfl⟩
  | cons event earlier ih =>
      obtain ⟨restarted, hclass, hrest⟩ :=
        ih (event.apply sweep property) (event.rung property rung)
      refine ⟨restarted, hclass, ?_⟩
      rw [List.cons_append, ladderFailures, ladderFailures, hrest, List.append_assoc]

end Histories

/-! ## Runs that failed and the failures stored -/

/-- Whether the Property's stored failure accounts for a run that ended failed at `runFailedAt`. A
Property without a row holds nothing. -/
def recordsFailureOfRun (previous : PropertyDiscovery) (runFailedAt : Option Int) : Bool :=
  match previous.lastTerminalErrorAt with
  | none => previous.errorClass.isSome
  | some failedAt => runFailedAt.all fun runFailedAt ↦ decide (runFailedAt ≤ failedAt)

/-- Dates a failure on the rows, with the backoff after the failure that the step read before. -/
def recordSnapshotFailure (sweep : DiscoverySweep) (property previous : PropertyDiscovery)
    (now : Int) (locationTooLarge : Bool) (code : String) : PropertyDiscovery :=
  markDiscoveryDeferred property now
    (now + snapshotFailureRetryMs previous now sweep.baseIntervalMs locationTooLarge) code

/-- The rows of a Property and its failed runs, each with the time of its failure if it is known. -/
structure SnapshotFailures where
  property : PropertyDiscovery
  failedRuns : ℕ → Option (Option Int)

/-- What happens to them. -/
inductive FailureStep
  /-- The store fails a run. -/
  | runFailed (run : ℕ) (failedAt : Option Int)
  /-- The step that failed the run dates the failure. -/
  | recorded (run : ℕ) (now : Int) (locationTooLarge : Bool) (code : String)
  /-- A redriven step dates a failure that nobody recorded. -/
  | redriven (run : ℕ) (now : Int) (locationTooLarge : Bool) (code : String)
  /-- A redriven step finds the failure recorded. -/
  | redrivenQuietly (run : ℕ)
  /-- A worker dies before it writes. -/
  | crashed
  /-- The sweep cannot enqueue and defers the Property. -/
  | deferred (now : Int)
  /-- Anything else, a completed run among it. -/
  | other (event : DiscoveryEvent)
  deriving DecidableEq, Repr

/-- The two writes of a failure, and everything between them. A step that dates a failure read the
rows at any earlier point. -/
def snapshotFailureSystem (sweep : DiscoverySweep) : ReadSystem SnapshotFailures FailureStep where
  init s := s.property.errorClass = none ∧ s.property.lastTerminalErrorAt = none ∧
    ∀ run, s.failedRuns run = none
  step seen s event s' :=
    match event with
    | .runFailed run failedAt => s.failedRuns run = none ∧
        s' = { s with failedRuns := Function.update s.failedRuns run (some failedAt) }
    | .recorded run now locationTooLarge code => (s.failedRuns run).isSome = true ∧
        ∃ read, seen read ∧ s' = { s with
          property :=
            recordSnapshotFailure sweep s.property read.property now locationTooLarge code }
    | .redriven run now locationTooLarge code => ∃ failedAt read,
        s.failedRuns run = some failedAt ∧ seen read ∧
          recordsFailureOfRun read.property failedAt = false ∧ s' = { s with
            property :=
              recordSnapshotFailure sweep s.property read.property now locationTooLarge code }
    | .redrivenQuietly run => ∃ failedAt read, s.failedRuns run = some failedAt ∧ seen read ∧
        recordsFailureOfRun read.property failedAt = true ∧ s' = s
    | .crashed => s' = s
    | .deferred now => s' = { s with
        property := sweep.enqueueFullLook s.property now (.failed true) }
    | .other event => event.storesNoFailure = true ∧
        s' = { s with property := event.apply sweep s.property }

/-- The date of the failure that a step stores. -/
def FailureStep.storedDate : FailureStep → Option Int
  | .recorded _ now _ _ => some now
  | .redriven _ now _ _ => some now
  | .deferred now => some now
  | _ => none

/-- The dates of the failures stored, newest first. -/
def storedDates (h : List (Move SnapshotFailures FailureStep)) : List Int :=
  h.filterMap fun m ↦ m.event.storedDate

section Runs

variable {sweep : DiscoverySweep} {h : List (Move SnapshotFailures FailureStep)}
  {s : SnapshotFailures}

/-- The rows hold the date of the failure stored last, also after a completed run. -/
theorem lastTerminalErrorAt_eq (run : Run (snapshotFailureSystem sweep) h s) :
    s.property.lastTerminalErrorAt = (storedDates h).head? ∧
      (s.property.lastTerminalErrorAt = none → s.property.errorClass = none) := by
  induction run with
  | start hinit => exact ⟨hinit.2.1, fun _ ↦ hinit.1⟩
  | @next h s s' event run hstep ih =>
      obtain ⟨hlast, hclass⟩ := ih
      cases event with
      | runFailed =>
          obtain ⟨-, rfl⟩ := hstep
          exact ⟨hlast, hclass⟩
      | recorded =>
          obtain ⟨-, read, -, rfl⟩ := hstep
          exact ⟨rfl, fun hnone ↦ by cases hnone⟩
      | redriven =>
          obtain ⟨failedAt, read, -, -, -, rfl⟩ := hstep
          exact ⟨rfl, fun hnone ↦ by cases hnone⟩
      | redrivenQuietly =>
          obtain ⟨failedAt, read, -, -, -, rfl⟩ := hstep
          exact ⟨hlast, hclass⟩
      | crashed =>
          cases hstep
          exact ⟨hlast, hclass⟩
      | deferred =>
          cases hstep
          exact ⟨rfl, fun hnone ↦ by cases hnone⟩
      | other event =>
          obtain ⟨hstores, rfl⟩ := hstep
          obtain ⟨hfailed, hrest⟩ :=
            apply_storesNoFailure sweep s.property hstores
          refine ⟨hfailed.trans hlast, fun hnone ↦ ?_⟩
          rcases hrest with ⟨-, hcleared⟩ | ⟨-, hkept, -⟩
          · exact hcleared
          · exact hkept.trans (hclass (hfailed ▸ hnone))

/-- A run's failure is accounted for if one was stored at or after it. -/
theorem recordsFailureOfRun_iff (run : Run (snapshotFailureSystem sweep) h s)
    (increasing : (storedDates h).Pairwise (· > ·)) (failedAt : Int) :
    recordsFailureOfRun s.property (some failedAt) = true ↔
      ∃ date ∈ storedDates h, failedAt ≤ date := by
  obtain ⟨hlast, hclass⟩ := lastTerminalErrorAt_eq run
  rw [recordsFailureOfRun, hlast]
  cases hdates : storedDates h with
  | nil =>
      rw [hdates] at hlast
      rw [hclass hlast]
      simp
  | cons date dates =>
      rw [hdates, List.pairwise_cons] at increasing
      simp only [List.head?_cons, Option.all_some, decide_eq_true_eq]
      constructor
      · exact fun hle ↦ ⟨date, List.mem_cons_self, hle⟩
      · rintro ⟨other, hmem, hle⟩
        rcases List.mem_cons.1 hmem with rfl | hmem
        · exact hle
        · exact hle.trans (increasing.1 other hmem).le

end Runs

/-! ## The ladder over any history -/

/-- Every failure of a history waits by its rung: the first stands on the first rung, a failure
before the retry date of the one before it keeps rung and wait, any other stands one rung up, no
wait is shorter than the one before it, and a completed run restarts the ladder. Whatever crashes
between the two writes of a failure, a run's failure counts as recorded exactly if one dated at or
after it was stored. -/
theorem snapshot_retry_ladder (sweep : DiscoverySweep) (positive : 0 < sweep.baseIntervalMs) :
    (∀ property events, property.errorClass = none → (∀ event ∈ events, event.onLadder = true) →
      (∀ failure ∈ ladderFailures sweep property 0 events, failure.waitMs =
        max sweep.baseIntervalMs
          (min (6 * 60 * 60 * 1000) (sweep.baseIntervalMs * 4 ^ (failure.rung - 1)))) ∧
      (∀ failure ∈ (ladderFailures sweep property 0 events).head?, failure.rung = 1) ∧
      (DiscoveryEvent.syncSucceeded ∉ events →
        (ladderFailures sweep property 0 events).IsChain LadderFailure.Next)) ∧
    (∀ property rung earlier later, ∃ restarted, restarted.errorClass = none ∧
      ladderFailures sweep property rung (earlier ++ .syncSucceeded :: later) =
        ladderFailures sweep property rung earlier ++ ladderFailures sweep restarted 0 later) ∧
    ∀ h s, Run (snapshotFailureSystem sweep) h s → (storedDates h).Pairwise (· > ·) →
      ∀ run failedAt, s.failedRuns run = some (some failedAt) →
        (recordsFailureOfRun s.property (some failedAt) = true ↔
          ∃ date ∈ storedDates h, failedAt ≤ date) := by
  refine ⟨fun property events fresh ladder ↦
      ⟨?_, head_ladderFailures fresh ladder, fun hnever ↦ ?_⟩,
    ladderFailures_syncSucceeded,
    fun h s run increasing _ failedAt _ ↦ recordsFailureOfRun_iff run increasing failedAt⟩
  · have on : OnRung sweep.baseIntervalMs property 0 := fresh
    exact waitMs_of_mem_ladderFailures positive on ladder
  · have on : OnRung sweep.baseIntervalMs property 0 := fresh
    exact isChain_ladderFailures positive on fun event mem ↦
      ⟨ladder event mem, fun heq ↦ hnever (heq ▸ mem)⟩

/-- Looks every quarter of an hour. -/
def quarterHourSweep : DiscoverySweep := ⟨15 * 60 * 1000, false, false, none⟩

/-- A Property whose sync never failed. -/
def neverFailed : PropertyDiscovery := ⟨none, none, none, none, none, none, none, none⟩

/-- A worker that dies after the store failed the first run, and a redriven step that dates the
failure. -/
theorem run_redriven : Run (snapshotFailureSystem quarterHourSweep)
    [⟨⟨neverFailed, Function.update (fun _ ↦ none) 1 (some (some 5))⟩,
        .redriven 1 7 false "locked",
        ⟨recordSnapshotFailure quarterHourSweep neverFailed neverFailed 7 false "locked",
          Function.update (fun _ ↦ none) 1 (some (some 5))⟩⟩,
      ⟨⟨neverFailed, fun _ ↦ none⟩, .runFailed 1 (some 5),
        ⟨neverFailed, Function.update (fun _ ↦ none) 1 (some (some 5))⟩⟩]
    ⟨recordSnapshotFailure quarterHourSweep neverFailed neverFailed 7 false "locked",
      Function.update (fun _ ↦ none) 1 (some (some 5))⟩ := by
  refine .next (.next (.start ⟨rfl, rfl, fun _ ↦ rfl⟩) ⟨rfl, rfl⟩) ?_
  exact ⟨some 5, ⟨neverFailed, Function.update (fun _ ↦ none) 1 (some (some 5))⟩,
    rfl, Or.inl rfl, rfl, rfl⟩

/-- A failure, its queue retry five minutes later and one at the retry date; and a failure that only
a redriven step dated. -/
theorem snapshot_retry_ladder_quarterHour :
    (ladderFailures quarterHourSweep neverFailed 0 [.snapshotFailed 0 false "locked",
        .snapshotFailed 300000 false "locked", .snapshotFailed 1200000 false "moved"] =
      [⟨0, 1, 900000⟩, ⟨300000, 1, 900000⟩, ⟨1200000, 2, 3600000⟩] ∧
      List.IsChain LadderFailure.Next
        [⟨0, 1, 900000⟩, ⟨300000, 1, 900000⟩, ⟨1200000, 2, 3600000⟩]) ∧
    recordsFailureOfRun
      (recordSnapshotFailure quarterHourSweep neverFailed neverFailed 7 false "locked")
      (some 5) = true := by
  have hladder := snapshot_retry_ladder quarterHourSweep (by decide)
  have htrace : ladderFailures quarterHourSweep neverFailed 0 [.snapshotFailed 0 false "locked",
      .snapshotFailed 300000 false "locked", .snapshotFailed 1200000 false "moved"] =
    [⟨0, 1, 900000⟩, ⟨300000, 1, 900000⟩, ⟨1200000, 2, 3600000⟩] := by decide
  refine ⟨⟨htrace, ?_⟩, ?_⟩
  · have hchain := (hladder.1 neverFailed [.snapshotFailed 0 false "locked",
      .snapshotFailed 300000 false "locked", .snapshotFailed 1200000 false "moved"] rfl
        (by simp [DiscoveryEvent.onLadder])).2.2 (by simp)
    rwa [htrace] at hchain
  · have hrecorded := hladder.2.2 _ _ run_redriven (by decide) 1 5 rfl
    exact hrecorded.2 ⟨7, by decide, by decide⟩

end ReputationKey.Review
